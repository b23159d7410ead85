import Mathlib
import ProxyRouter.Proofs.ScheduleHeap
/-!
The schedule's map from names to entries agrees with its queue: each name maps to the one queued
entry that carries it, each queued entry is some name's, and the queue is a heap in order. Every
operation of the schedule keeps this. Giving the schedule a roster leaves exactly the roster's
names scheduled, a tick keeps the names it does not take out, and rescheduling a name of the
roster schedules it.
-/
namespace ProxyRouter.Health

open ScheduleQueue

namespace Schedule

def names (s : Schedule) : List String := s.entries.map Prod.fst

theorem mem_names {s : Schedule} {n : String} : n ∈ s.names ↔ ∃ a, (n, a) ∈ s.entries := by
  simp [names]

/-- The entries name queued addresses, one name each, and the queue is a heap of them. -/
structure Consistent (s : Schedule) : Prop where
  indexed : s.queue.Indexed
  ordered : s.queue.Ordered s.queue.len
  nodup : s.names.Nodup
  name : ∀ e ∈ s.entries, (s.queue.entry e.2).name = e.1
  queued : ∀ e ∈ s.entries, s.queue.Queued e.2
  entry : ∀ a, s.queue.Queued a → ∃ e ∈ s.entries, e.2 = a
  length : s.queue.len = s.entries.length

section
variable {s : Schedule}

theorem Consistent.eq_of_name (hc : s.Consistent) {e e' : String × Nat} (he : e ∈ s.entries)
    (he' : e' ∈ s.entries) (h : e.1 = e'.1) : e = e' :=
  List.inj_on_of_nodup_map hc.nodup he he' h

theorem Consistent.mem_entries_iff (hc : s.Consistent) {n : String} {a : Nat} :
    (n, a) ∈ s.entries ↔ s.queue.Queued a ∧ (s.queue.entry a).name = n := by
  constructor
  · intro h
    exact ⟨hc.queued _ h, hc.name _ h⟩
  · rintro ⟨hq, rfl⟩
    obtain ⟨e, he, rfl⟩ := hc.entry a hq
    rw [hc.name e he]
    exact he

theorem Consistent.queued_iff_mem_names (hc : s.Consistent) {n : String} :
    (∃ a, s.queue.Queued a ∧ (s.queue.entry a).name = n) ↔ n ∈ s.names := by
  simp only [mem_names, hc.mem_entries_iff]

theorem Consistent.queued_unique (hc : s.Consistent) {a b : Nat} (ha : s.queue.Queued a)
    (hb : s.queue.Queued b) (h : (s.queue.entry a).name = (s.queue.entry b).name) : a = b := by
  have ea := hc.mem_entries_iff.2 ⟨ha, rfl⟩
  have eb := hc.mem_entries_iff.2 ⟨hb, h.symm⟩
  exact (Prod.ext_iff.1 (hc.eq_of_name ea eb rfl)).2

theorem mem_of_entryOf? {n : String} {a : Nat} (h : s.entryOf? n = some a) :
    (n, a) ∈ s.entries := by
  obtain ⟨e, he, rfl⟩ := Option.map_eq_some_iff.1 h
  have hn : e.1 = n := by simpa using List.find?_some he
  rw [← hn]
  exact List.mem_of_find?_eq_some he

theorem entryOf?_eq_none_iff {n : String} : s.entryOf? n = none ↔ n ∉ s.names := by
  simp only [entryOf?, Option.map_eq_none_iff, List.find?_eq_none, names, List.mem_map, beq_iff_eq,
    not_exists, not_and]

theorem Consistent.entryOf?_eq_some_iff (hc : s.Consistent) {n : String} {a : Nat} :
    s.entryOf? n = some a ↔ s.queue.Queued a ∧ (s.queue.entry a).name = n := by
  rw [← hc.mem_entries_iff]
  refine ⟨mem_of_entryOf?, fun h => ?_⟩
  cases hf : s.entryOf? n with
  | none => exact absurd (mem_names.2 ⟨a, h⟩) (entryOf?_eq_none_iff.1 hf)
  | some b =>
    have := hc.eq_of_name (mem_of_entryOf? hf) h rfl
    simp_all

end

/-! ### Taking out an entry -/

theorem length_filter_fst_ne {l : List (String × Nat)} (hnd : (l.map Prod.fst).Nodup)
    {e : String × Nat} (he : e ∈ l) : (l.filter (·.1 != e.1)).length + 1 = l.length := by
  induction l with
  | nil => cases he
  | cons x l ih =>
    simp only [List.map_cons, List.nodup_cons, List.mem_map] at hnd
    rcases List.mem_cons.1 he with rfl | he
    · have hkeep : l.filter (·.1 != e.1) = l :=
        List.filter_eq_self.2 fun y hy => by
          simpa using fun h => hnd.1 ⟨y, hy, h⟩
      simp [hkeep]
    · have hx : x.1 ≠ e.1 := fun h => hnd.1 ⟨e, he, h.symm⟩
      simp [hx, ih hnd.2 he]

theorem Consistent.takeOut {s : Schedule} (hc : s.Consistent) {e : String × Nat}
    (he : e ∈ s.entries) {q : ScheduleQueue} (ht : TakenOut s.queue q e.2) :
    ({ s with queue := q, entries := s.entries.filter (·.1 != e.1) } : Schedule).Consistent where
  indexed := ht.indexed
  ordered := ht.ordered
  nodup := hc.nodup.sublist (List.filter_sublist.map _)
  name e' he' := by
    obtain ⟨he', _⟩ := List.mem_filter.1 he'
    rw [ht.name]
    exact hc.name e' he'
  queued e' he' := by
    obtain ⟨he', hne⟩ := List.mem_filter.1 he'
    refine (ht.queued _).2 ⟨hc.queued e' he', fun h2 => ?_⟩
    have h1 : e'.1 = e.1 := by rw [← hc.name e' he', ← hc.name e he, h2]
    simp [h1] at hne
  entry b hb := by
    obtain ⟨hq, hne⟩ := (ht.queued b).1 hb
    obtain ⟨e', he', rfl⟩ := hc.entry b hq
    refine ⟨e', List.mem_filter.2 ⟨he', ?_⟩, rfl⟩
    have h1 : e'.1 ≠ e.1 := fun h1 => hne (by rw [hc.eq_of_name he' he h1])
    simpa using h1
  length := by
    have := length_filter_fst_ne hc.nodup he
    simp only [ht.len, hc.length]
    omega

theorem mem_names_filter {s : Schedule} {n m : String} :
    n ∈ (s.entries.filter (·.1 != m)).map Prod.fst ↔ n ∈ s.names ∧ n ≠ m := by
  simp only [names, List.mem_map, List.mem_filter, bne_iff_ne, ne_eq]
  constructor
  · rintro ⟨e, ⟨he, hm⟩, rfl⟩
    exact ⟨⟨e, he, rfl⟩, hm⟩
  · rintro ⟨⟨e, he, rfl⟩, hm⟩
    exact ⟨e, ⟨he, hm⟩, rfl⟩

/-! ### Scheduling a name -/

@[simp] theorem roster_pushLocked (s : Schedule) (name : String) (due : Instant) :
    (s.pushLocked name due).roster = s.roster := by
  unfold pushLocked
  split <;> rfl

theorem mem_names_pushLocked (s : Schedule) (name : String) (due : Instant) {n : String} :
    n ∈ (s.pushLocked name due).names ↔ n ∈ s.names ∨ n = name := by
  unfold pushLocked
  split
  · rename_i a ha
    have hname : name ∈ s.names := mem_names.2 ⟨a, mem_of_entryOf? ha⟩
    constructor
    · exact .inl
    · rintro (h | rfl)
      · exact h
      · exact hname
  · simp [names]

theorem Consistent.moveDue {s : Schedule} (hc : s.Consistent) {name : String} {a : Nat}
    (ha : s.entryOf? name = some a) (due : Instant) :
    ({ s with queue := (s.queue.setDue a due).fix (s.queue.entry a).index.toNat } :
      Schedule).Consistent := by
  have he := mem_of_entryOf? ha
  obtain ⟨p, hp, hslot, hidx⟩ := hc.indexed.position (hc.queued _ he)
  simp only at hslot
  rw [hidx, ← hslot]
  obtain ⟨hlen, -, hix, hord, -, hname, hq⟩ := fix_setDue_spec hc.indexed hc.ordered hp due
  exact {
    indexed := hix
    ordered := hord
    nodup := hc.nodup
    name := fun e he => by rw [hname]; exact hc.name e he
    queued := fun e he => (hq _).2 (hc.queued e he)
    entry := fun b hb => hc.entry b ((hq b).1 hb)
    length := hlen.trans hc.length }

theorem Consistent.addEntry {s : Schedule} (hc : s.Consistent) {name : String}
    (hn : name ∉ s.names) (due : Instant) :
    ({ s with queue := (s.queue.push due name).1,
              entries := s.entries ++ [(name, (s.queue.push due name).2)] } :
      Schedule).Consistent := by
  obtain ⟨haddr, hlen, -, hix, hord, -, hname, hq⟩ :=
    push_spec hc.indexed hc.ordered due name
  have hold : ∀ e ∈ s.entries, e.2 ≠ s.queue.fresh := fun e he =>
    Nat.ne_of_lt (hc.indexed.lt_fresh (hc.queued e he))
  rw [haddr]
  refine ⟨hix, hord, ?_, ?_, ?_, ?_, ?_⟩
  · have h := hc.nodup.concat hn
    simpa [names] using h
  · intro e he
    rcases List.mem_append.1 he with he | he
    · rw [hname, if_neg (hold e he)]
      exact hc.name e he
    · obtain rfl := List.mem_singleton.1 he
      simp [hname]
  · intro e he
    rcases List.mem_append.1 he with he | he
    · exact (hq _).2 (.inl (hc.queued e he))
    · obtain rfl := List.mem_singleton.1 he
      exact (hq _).2 (.inr rfl)
  · intro b hb
    rcases (hq b).1 hb with hb | rfl
    · obtain ⟨e, he, rfl⟩ := hc.entry _ hb
      exact ⟨e, List.mem_append_left _ he, rfl⟩
    · exact ⟨_, List.mem_append_right _ (List.mem_singleton_self _), rfl⟩
  · simp [hlen, hc.length]

theorem Consistent.pushLocked {s : Schedule} (hc : s.Consistent) (name : String) (due : Instant) :
    (s.pushLocked name due).Consistent := by
  unfold Schedule.pushLocked
  split
  · rename_i a ha
    exact hc.moveDue ha due
  · rename_i ha
    exact hc.addEntry (entryOf?_eq_none_iff.1 ha) due

/-! ### Rescheduling -/

@[simp] theorem roster_reschedule (s : Schedule) (now : Instant) (grade : HealthState)
    (name : String) : (s.reschedule now grade name).roster = s.roster := by
  unfold reschedule
  split <;> simp

theorem Consistent.reschedule {s : Schedule} (hc : s.Consistent) (now : Instant)
    (grade : HealthState) (name : String) : (s.reschedule now grade name).Consistent := by
  unfold Schedule.reschedule
  split
  · exact hc.pushLocked _ _
  · exact hc

theorem mem_names_reschedule (s : Schedule) (now : Instant) (grade : HealthState)
    (name : String) {n : String} :
    n ∈ (s.reschedule now grade name).names ↔
      n ∈ s.names ∨ (n = name ∧ name ∈ s.roster.map Prod.fst) := by
  unfold reschedule
  split
  · rename_i h
    have hr : name ∈ s.roster.map Prod.fst := by simpa using h
    simp [mem_names_pushLocked, hr]
  · rename_i h
    have hr : name ∉ s.roster.map Prod.fst := by simpa using h
    simp [hr]

/-! ### Giving the schedule a roster -/

theorem Consistent.setRoster {s : Schedule} (hc : s.Consistent)
    (roster : List (String × Pool.ProxyIdentity)) : ({ s with roster := roster }).Consistent :=
  ⟨hc.indexed, hc.ordered, hc.nodup, hc.name, hc.queued, hc.entry, hc.length⟩

theorem any_fst_eq_iff (s : Schedule) (n : String) :
    s.entries.any (·.1 == n) = true ↔ n ∈ s.names := by
  simp [names]

@[simp] theorem roster_dropIfLeft (s : Schedule) (next : List (String × Pool.ProxyIdentity))
    (e : String × Nat) : (s.dropIfLeft next e).roster = s.roster := by
  unfold dropIfLeft
  split <;> rfl

theorem entries_dropIfLeft (s : Schedule) (next : List (String × Pool.ProxyIdentity))
    (e : String × Nat) : (s.dropIfLeft next e).entries =
      if next.any (·.1 == e.1) then s.entries else s.entries.filter (·.1 != e.1) := by
  unfold dropIfLeft
  split <;> rfl

theorem mem_names_dropIfLeft {s : Schedule} {next : List (String × Pool.ProxyIdentity)}
    {e : String × Nat} {n : String} (hn : n ∈ (s.dropIfLeft next e).names) :
    n ∈ s.names ∧ (e.1 ∈ next.map Prod.fst ∨ n ≠ e.1) := by
  rw [names, entries_dropIfLeft] at hn
  split at hn
  · rename_i hkeep
    exact ⟨hn, .inl (by simpa using hkeep)⟩
  · obtain ⟨hn, hne⟩ := mem_names_filter.1 hn
    exact ⟨hn, .inr hne⟩

theorem Consistent.dropIfLeft {s : Schedule} (hc : s.Consistent)
    (next : List (String × Pool.ProxyIdentity)) {e : String × Nat} (he : e ∈ s.entries) :
    (s.dropIfLeft next e).Consistent := by
  unfold Schedule.dropIfLeft
  split
  · exact hc
  · obtain ⟨p, hp, hslot, hidx⟩ := hc.indexed.position (hc.queued e he)
    rw [hidx]
    have ht := (remove_spec hc.indexed hc.ordered hp).2
    rw [hslot] at ht
    exact hc.takeOut he ht

theorem foldl_dropIfLeft (next : List (String × Pool.ProxyIdentity)) (es : List (String × Nat))
    {s : Schedule} (hc : s.Consistent) (hes : ∀ e ∈ es, e ∈ s.entries)
    (hnd : (es.map Prod.fst).Nodup) :
    (es.foldl (dropIfLeft next) s).Consistent ∧ (es.foldl (dropIfLeft next) s).roster = s.roster ∧
      ∀ n ∈ (es.foldl (dropIfLeft next) s).names,
        n ∈ s.names ∧ (n ∈ next.map Prod.fst ∨ n ∉ es.map Prod.fst) := by
  induction es generalizing s with
  | nil => exact ⟨hc, rfl, fun n hn => ⟨hn, .inr (by simp)⟩⟩
  | cons e es ih =>
    simp only [List.map_cons, List.nodup_cons, List.mem_map] at hnd
    have he : e ∈ s.entries := hes e List.mem_cons_self
    -- the later names differ from `e.1`, so their entries survive dropping `e`
    have hes' : ∀ e' ∈ es, e' ∈ (s.dropIfLeft next e).entries := by
      intro e' he'
      have hne : e'.1 ≠ e.1 := fun h => hnd.1 ⟨e', he', h⟩
      rw [entries_dropIfLeft]
      split
      · exact hes e' (List.mem_cons_of_mem _ he')
      · exact List.mem_filter.2 ⟨hes e' (List.mem_cons_of_mem _ he'), by simpa using hne⟩
    obtain ⟨hc', hr', hn'⟩ := ih (hc.dropIfLeft next he) hes' hnd.2
    refine ⟨hc', hr'.trans (roster_dropIfLeft _ _ _), fun n hn => ?_⟩
    obtain ⟨hn1, hnext⟩ := hn' n hn
    obtain ⟨hn0, he1⟩ := mem_names_dropIfLeft hn1
    refine ⟨hn0, ?_⟩
    by_cases h : n ∈ next.map Prod.fst
    · exact .inl h
    · -- off the new roster, so `n` is not `e.1` either, whose entry stayed only if on it
      refine .inr ?_
      simp only [List.map_cons, List.mem_cons, not_or]
      refine ⟨fun heq => ?_, hnext.resolve_left h⟩
      rcases he1 with he1 | he1
      · exact h (heq ▸ he1)
      · exact he1 heq

theorem foldl_scheduleNew (due : String → Instant) (ps : List (String × Pool.ProxyIdentity))
    {s : Schedule} (hc : s.Consistent) :
    let r := ps.foldl (fun acc p => if acc.entries.any (·.1 == p.1) then acc
      else acc.pushLocked p.1 (due p.1)) s
    r.Consistent ∧ r.roster = s.roster ∧ ∀ n, n ∈ r.names ↔ n ∈ s.names ∨ n ∈ ps.map Prod.fst := by
  induction ps generalizing s with
  | nil => simp [hc]
  | cons p ps ih =>
    simp only [List.foldl_cons]
    split
    · -- `p.1` already has its check
      rename_i hp
      obtain ⟨hc', hr', hn'⟩ := ih hc
      refine ⟨hc', hr', fun n => ?_⟩
      have hp : p.1 ∈ s.names := (any_fst_eq_iff s p.1).1 hp
      rw [hn', List.map_cons, List.mem_cons]
      constructor
      · rintro (h | h)
        · exact .inl h
        · exact .inr (.inr h)
      · rintro (h | rfl | h)
        · exact .inl h
        · exact .inl hp
        · exact .inr h
    · obtain ⟨hc', hr', hn'⟩ := ih (hc.pushLocked p.1 (due p.1))
      refine ⟨hc', hr'.trans (roster_pushLocked _ _ _), fun n => ?_⟩
      rw [hn', mem_names_pushLocked, or_assoc, List.map_cons, List.mem_cons]

/-- After a roster is given, exactly its names are scheduled. -/
theorem Consistent.sync {s : Schedule} (hc : s.Consistent) (now : Instant)
    (grade : String → HealthState) (ids : List Pool.ProxyIdentity) :
    (s.sync now grade ids).Consistent ∧ (s.sync now grade ids).roster = byName ids ∧
      ∀ n, n ∈ (s.sync now grade ids).names ↔ n ∈ (byName ids).map Prod.fst := by
  obtain ⟨hck, -, hnk⟩ := foldl_dropIfLeft (byName ids) s.entries hc (fun _ h => h) hc.nodup
  obtain ⟨hca, -, hna⟩ := foldl_scheduleNew (fun n => now.add (s.config.interval (grade n)))
    (byName ids) hck
  refine ⟨hca.setRoster _, rfl, fun n => ?_⟩
  -- the names that stayed are on the roster, so the new ones leave no others
  have hkept : n ∈ (s.entries.foldl (Schedule.dropIfLeft (byName ids)) s).names →
      n ∈ (byName ids).map Prod.fst := fun h => by
    obtain ⟨hn, hn' | hn'⟩ := hnk n h
    · exact hn'
    · exact absurd hn hn'
  exact (hna n).trans ⟨fun h => h.elim hkept id, .inr⟩

/-! ### Taking out the checks that are due -/

/-- A tick's schedule keeps the queue and map in agreement and takes out names only; each name it
takes out that is on the roster brings a proxy of the roster under that name. -/
theorem Consistent.popDue {s : Schedule} (hc : s.Consistent) (now : Instant) :
    (s.popDue now).2.Consistent ∧ (s.popDue now).2.roster = s.roster ∧
      (∀ n ∈ (s.popDue now).2.names, n ∈ s.names) ∧
      ∀ n ∈ s.names, n ∉ (s.popDue now).2.names → n ∈ s.roster.map Prod.fst →
        ∃ p ∈ s.roster, p.1 = n ∧ p.2 ∈ (s.popDue now).1 := by
  -- on the length of the queue, which each check taken out shortens
  induction hl : s.queue.len using Nat.strong_induction_on generalizing s with
  | _ len ih =>
    rw [Schedule.popDue]
    split
    · rename_i hdue
      obtain ⟨haddr, ht⟩ := pop_spec hc.indexed hc.ordered hdue.1
      obtain ⟨e, he, hea⟩ := hc.entry _ ⟨0, hdue.1, rfl⟩
      -- the check taken out is the first one, and its name's entry goes with it
      have hname : (s.queue.pop.1.entry s.queue.pop.2).name = e.1 := by
        rw [haddr, ht.name, ← hea, hc.name e he]
      rw [← hea] at ht
      obtain ⟨hc', hr', hn', hp'⟩ := ih _ (by rw [← hl, ht.len]; omega) (hc.takeOut he ht) rfl
      simp only [hname]
      refine ⟨hc', hr', fun n hn => (mem_names_filter.1 (hn' n hn)).1, fun n hn hgone hros => ?_⟩
      by_cases hne : n = e.1
      · subst hne
        obtain ⟨p, hp⟩ : ∃ p, s.roster.find? (·.1 == e.1) = some p := by
          rw [← Option.isSome_iff_exists, List.find?_isSome]
          simpa using hros
        have hpn : p.1 = e.1 := by simpa using List.find?_some hp
        exact ⟨p, List.mem_of_find?_eq_some hp, hpn, by simp [hp]⟩
      · obtain ⟨p, hp, hpn, hpr⟩ := hp' n (mem_names_filter.2 ⟨hn, hne⟩) hgone hros
        exact ⟨p, hp, hpn, List.mem_append_right _ hpr⟩
    · exact ⟨hc, rfl, fun n hn => hn, fun n hn hgone => absurd hn hgone⟩

/-! ### The due times by name -/

theorem insertByName_perm (e : String × Instant) (l : List (String × Instant)) :
    (pending.insertByName e l).Perm (e :: l) := by
  fun_induction pending.insertByName e l with
  | case1 => exact .refl _
  | case2 => exact .refl _
  | case3 f fs _ ih => exact (ih.cons f).trans (.swap e f fs)

theorem foldl_insertByName_perm (l acc : List (String × Instant)) :
    (l.foldl (fun acc e => pending.insertByName e acc) acc).Perm (l ++ acc) := by
  induction l generalizing acc with
  | nil => exact .refl _
  | cons x l ih =>
    exact (ih _).trans (((insertByName_perm x acc).append_left l).trans List.perm_middle)

theorem pending_perm (s : Schedule) :
    s.pending.Perm (s.entries.map fun e => (e.1, (s.queue.entry e.2).due)) := by
  have h := foldl_insertByName_perm (s.entries.map fun e => (e.1, (s.queue.entry e.2).due)) []
  rw [List.append_nil] at h
  exact h

theorem Consistent.mem_pending {s : Schedule} (hc : s.Consistent) {n : String} {due : Instant} :
    (n, due) ∈ s.pending ↔
      ∃ a, s.queue.Queued a ∧ (s.queue.entry a).name = n ∧ (s.queue.entry a).due = due := by
  rw [(pending_perm s).mem_iff, List.mem_map]
  constructor
  · rintro ⟨e, he, h⟩
    obtain ⟨rfl, rfl⟩ := Prod.mk.inj h
    exact ⟨e.2, hc.queued e he, hc.name e he, rfl⟩
  · rintro ⟨a, hq, rfl, rfl⟩
    exact ⟨_, hc.mem_entries_iff.2 ⟨hq, rfl⟩, rfl⟩

theorem Consistent.pending_nodup {s : Schedule} (hc : s.Consistent) :
    (s.pending.map Prod.fst).Nodup := by
  have h := (pending_perm s).map Prod.fst
  rw [List.map_map] at h
  exact h.nodup_iff.2 hc.nodup

end Schedule

end ProxyRouter.Health
