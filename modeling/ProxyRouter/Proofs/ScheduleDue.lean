import Mathlib
import ProxyRouter.Proofs.CheckLoop
/-!
# When each name is due

The schedule read as a map from names to due times (`Schedule.dueOf?`). The first check of the
queue is due no later than any other, as the queue is a heap in order. A tick takes out exactly
the checks due by its time, one per name, and leaves every other check due when it was;
rescheduling a name of the roster makes it due one interval of its grade after the clock and
changes no other name's time; and the loop sleeps until the earliest check is due, kept between
the least and the greatest sleep.
-/
namespace ProxyRouter.Health

open ScheduleQueue

theorem ScheduleQueue.Ordered.key_zero_le {q : ScheduleQueue} (ho : q.Ordered q.len) :
    ∀ p < q.len, q.key 0 ≤ q.key p := by
  -- up the chain of parents, each due no later than its child
  intro p
  induction p using Nat.strong_induction_on with
  | _ p ih =>
    intro hp
    rcases Nat.eq_zero_or_pos p with rfl | hp0
    · exact Int.le_refl _
    · have hpar := parent_lt hp0
      exact Int.le_trans (ih (parent p) hpar (by omega)) (ho p hp0 hp)

namespace Schedule

def dueOf? (s : Schedule) (n : String) : Option Instant :=
  (s.entryOf? n).map fun a => (s.queue.entry a).due

section
variable {s : Schedule} {n : String} {d : Instant}

theorem dueOf?_eq_none_iff : s.dueOf? n = none ↔ n ∉ s.names := by
  simp [dueOf?, entryOf?_eq_none_iff]

theorem Consistent.dueOf?_eq_some_iff (hc : s.Consistent) :
    s.dueOf? n = some d ↔
      ∃ a, s.queue.Queued a ∧ (s.queue.entry a).name = n ∧ (s.queue.entry a).due = d := by
  simp only [dueOf?, Option.map_eq_some_iff, hc.entryOf?_eq_some_iff]
  constructor
  · rintro ⟨a, ⟨hq, hn⟩, rfl⟩
    exact ⟨a, hq, hn, rfl⟩
  · rintro ⟨a, hq, hn, rfl⟩
    exact ⟨a, ⟨hq, hn⟩, rfl⟩

theorem Consistent.first_le (hc : s.Consistent) (hd : s.dueOf? n = some d) :
    (s.queue.entryAt 0).due ≤ d := by
  obtain ⟨a, ⟨p, hp, rfl⟩, -, rfl⟩ := hc.dueOf?_eq_some_iff.1 hd
  exact hc.ordered.key_zero_le p hp

theorem Consistent.dueOf?_first (hc : s.Consistent) (hl : 0 < s.queue.len) :
    s.dueOf? (s.queue.entryAt 0).name = some (s.queue.entryAt 0).due :=
  hc.dueOf?_eq_some_iff.2 ⟨_, ⟨0, hl, rfl⟩, rfl, rfl⟩

theorem dueOf?_of_len_eq_zero (hc : s.Consistent) (hl : s.queue.len = 0) (n : String) :
    s.dueOf? n = none := by
  have hnil : s.entries = [] := List.eq_nil_of_length_eq_zero (hc.length ▸ hl)
  simp [dueOf?, entryOf?, hnil]

end

/-! ### Taking out the checks that are due -/

theorem dueOf?_takeOut {s : Schedule} (e : String × Nat) {q : ScheduleQueue}
    (hdue : ∀ b, (q.entry b).due = (s.queue.entry b).due) (n : String) :
    ({ s with queue := q, entries := s.entries.filter (·.1 != e.1) } : Schedule).dueOf? n =
      if n = e.1 then none else s.dueOf? n := by
  simp only [dueOf?, entryOf?, List.find?_filter]
  split
  · rename_i h
    subst h
    simp
  · rename_i h
    -- an entry carrying `n` is not `e`'s, so the filter keeps it
    have hp : (fun x : String × Nat => decide ((x.1 != e.1) = true ∧ (x.1 == n) = true)) =
        (fun x => x.1 == n) := by
      funext x
      by_cases hx : x.1 = n
      · simp [hx, h]
      · simp [hx]
    rw [hp]
    cases s.entries.find? (·.1 == n) <;> simp [hdue]

/-- What a tick takes out: every check due by `now`, one per name, and nothing else, while the
other checks keep their due times. The proxies it returns are the roster's under the names taken
out, in the order taken out. -/
theorem Consistent.popDue_spec {s : Schedule} (hc : s.Consistent) (now : Instant) :
    ∃ taken : List String, taken.Nodup ∧
      (∀ n, n ∈ taken ↔ ∃ d, s.dueOf? n = some d ∧ d ≤ now) ∧
      (s.popDue now).1 = taken.filterMap (fun n => (s.roster.find? (·.1 == n)).map (·.2)) ∧
      ∀ n, (s.popDue now).2.dueOf? n = (s.dueOf? n).filter fun d => decide (now < d) := by
  -- on the length of the queue, which each check taken out shortens
  induction hl : s.queue.len using Nat.strong_induction_on generalizing s with
  | _ len ih =>
    rw [Schedule.popDue]
    split
    · rename_i hdue
      obtain ⟨haddr, ht⟩ := pop_spec hc.indexed hc.ordered hdue.1
      obtain ⟨e, he, hea⟩ := hc.entry _ ⟨0, hdue.1, rfl⟩
      have hname : (s.queue.pop.1.entry s.queue.pop.2).name = e.1 := by
        rw [haddr, ht.name, ← hea, hc.name e he]
      -- the check taken out is the first one, due by `now`
      have hfirst : s.dueOf? e.1 = some (s.queue.entryAt 0).due := by
        rw [← hc.name e he, hea]
        exact hc.dueOf?_first hdue.1
      have hle : (s.queue.entryAt 0).due ≤ now := Int.not_lt.1 hdue.2
      rw [← hea] at ht
      obtain ⟨taken, hnd, hmem, hids, hrest⟩ :=
        ih _ (by rw [← hl, ht.len]; omega) (hc.takeOut he ht) rfl
      have hout := dueOf?_takeOut e ht.due
      simp only [hname]
      refine ⟨e.1 :: taken, ?_, fun n => ?_, ?_, fun n => ?_⟩
      · refine List.nodup_cons.2 ⟨fun h => ?_, hnd⟩
        obtain ⟨d, hd, -⟩ := (hmem e.1).1 h
        simp [hout] at hd
      · rw [List.mem_cons, hmem, hout]
        by_cases hn : n = e.1
        · subst hn
          simp [hfirst, hle]
        · simp [hn]
      · rw [hids, List.filterMap_cons]
        cases s.roster.find? (·.1 == e.1) <;> rfl
      · rw [hrest, hout]
        by_cases hn : n = e.1
        · subst hn
          have hnl : ¬ now < (s.queue.entryAt 0).due := Int.not_lt.2 hle
          simp [hfirst, hnl, Option.filter]
        · simp [hn]
    · rename_i hstop
      -- nothing is due: the queue is empty, or its first check, the earliest, is not due yet
      have hlate : ∀ n d, s.dueOf? n = some d → now < d := by
        intro n d hd
        by_cases hl0 : s.queue.len = 0
        · simp [dueOf?_of_len_eq_zero hc hl0 n] at hd
        · have hnow : now < (s.queue.entryAt 0).due := by
            by_contra h
            exact hstop ⟨Nat.pos_of_ne_zero hl0, h⟩
          exact Int.lt_of_lt_of_le hnow (hc.first_le hd)
      refine ⟨[], List.nodup_nil, fun n => ?_, rfl, fun n => ?_⟩
      · simp only [List.not_mem_nil, false_iff, not_exists, not_and]
        intro d hd hdn
        exact Int.not_lt.2 hdn (hlate n d hd)
      · show s.dueOf? n = _
        cases hd : s.dueOf? n with
        | none => rfl
        | some d => simp [hlate n d hd, Option.filter]

@[simp] theorem config_popDue (s : Schedule) (now : Instant) :
    (s.popDue now).2.config = s.config := by
  induction hl : s.queue.len using Nat.strong_induction_on generalizing s with
  | _ len ih =>
    rw [Schedule.popDue]
    split
    · rename_i hdue
      exact ih _ (by rw [← hl, len_pop]; omega) _ rfl
    · rfl

/-! ### Rescheduling -/

@[simp] theorem config_pushLocked (s : Schedule) (name : String) (due : Instant) :
    (s.pushLocked name due).config = s.config := by
  unfold pushLocked
  split <;> rfl

@[simp] theorem config_reschedule (s : Schedule) (now : Instant) (grade : HealthState)
    (name : String) : (s.reschedule now grade name).config = s.config := by
  unfold reschedule
  split <;> simp

theorem Consistent.dueOf?_pushLocked {s : Schedule} (hc : s.Consistent) (name : String)
    (due : Instant) (n : String) :
    (s.pushLocked name due).dueOf? n = if n = name then some due else s.dueOf? n := by
  unfold Schedule.pushLocked
  split
  · -- the name has a check at `a`: its due time changes in place
    rename_i a ha
    obtain ⟨p, hp, hslot, hidx⟩ := hc.indexed.position (mem_of_entryOf? ha |> hc.queued _)
    simp only at hslot
    have hspec := fix_setDue_spec hc.indexed hc.ordered hp due
    rw [hslot] at hspec
    obtain ⟨-, -, -, -, hdue, -, -⟩ := hspec
    simp only [dueOf?, entryOf?] at ha ⊢
    rw [hidx]
    split
    · rename_i hn
      subst hn
      simp [ha, hdue]
    · rename_i hn
      cases hb : s.entryOf? n with
      | none =>
        simp only [entryOf?] at hb
        simp [hb]
      | some b =>
        -- another name's check sits at another address
        have hba : b ≠ a := by
          rintro rfl
          have h1 := (hc.entryOf?_eq_some_iff.1 hb).2
          have h2 := (hc.entryOf?_eq_some_iff.1 ha).2
          exact hn (h1.symm.trans h2)
        simp only [entryOf?] at hb
        simp [hb, hdue, hba]
  · -- a new check at a fresh address
    rename_i ha
    obtain ⟨haddr, -, -, -, -, hdue, -, -⟩ := push_spec hc.indexed hc.ordered due name
    have hnone : s.entries.find? (·.1 == name) = none := by
      simpa [entryOf?] using ha
    simp only [dueOf?, entryOf?, List.find?_append]
    split
    · rename_i hn
      subst hn
      simp [hnone, haddr, hdue]
    · rename_i hn
      cases hb : s.entries.find? (·.1 == n) with
      | none =>
        have hne : (name == n) = false := beq_false_of_ne fun h => hn h.symm
        simp [hne]
      | some e =>
        -- an old check is at an allocated address, never the fresh one
        have he : e ∈ s.entries := List.mem_of_find?_eq_some hb
        have hfresh : e.2 ≠ s.queue.fresh := Nat.ne_of_lt (hc.indexed.lt_fresh (hc.queued e he))
        simp [hdue, hfresh]

theorem Consistent.dueOf?_reschedule {s : Schedule} (hc : s.Consistent) (now : Instant)
    (grade : HealthState) (name n : String) :
    (s.reschedule now grade name).dueOf? n =
      if n = name ∧ name ∈ s.roster.map Prod.fst then some (now.add (s.config.interval grade))
      else s.dueOf? n := by
  unfold Schedule.reschedule
  split
  · rename_i hr
    have hr : name ∈ s.roster.map Prod.fst := by simpa using hr
    rw [hc.dueOf?_pushLocked]
    simp [hr]
  · rename_i hr
    have hr : name ∉ s.roster.map Prod.fst := by simpa using hr
    simp [hr]

/-! ### The sleep after a tick -/

/-- How long the loop sleeps after a tick: the greatest sleep when nothing is scheduled, and
otherwise the time until the earliest check is due, kept between the least and the greatest
sleep. -/
def WaitLaw (s : Schedule) (now : Instant) : Prop :=
  ((∀ n, s.dueOf? n = none) ∧ s.nextWait now = maxSleep) ∨
    ∃ n d, s.dueOf? n = some d ∧ (∀ m e, s.dueOf? m = some e → d ≤ e) ∧
      (s.nextWait now).nanos = max minSleep.nanos (min maxSleep.nanos (d.since now).nanos)

theorem minSleep_le_maxSleep : minSleep.nanos ≤ maxSleep.nanos := by
  decide

theorem Consistent.waitLaw {s : Schedule} (hc : s.Consistent) (now : Instant) : s.WaitLaw now := by
  by_cases hl : s.queue.len = 0
  · exact .inl ⟨dueOf?_of_len_eq_zero hc hl, by simp [nextWait, hl]⟩
  · -- the first check of the queue is the earliest
    refine .inr ⟨_, _, hc.dueOf?_first (Nat.pos_of_ne_zero hl),
      fun m e he => hc.first_le he, ?_⟩
    have hle := minSleep_le_maxSleep
    simp only [nextWait, if_neg hl]
    generalize ((s.queue.entryAt 0).due.since now) = d
    have hlt : ∀ a b : Duration, a < b ↔ a.nanos < b.nanos := fun _ _ => Iff.rfl
    simp only [gt_iff_lt, hlt]
    split_ifs <;> omega

end Schedule

end ProxyRouter.Health
