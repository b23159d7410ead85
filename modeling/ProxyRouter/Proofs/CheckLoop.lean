import Mathlib
import ProxyRouter.Health.Loop
import ProxyRouter.Proofs.ScheduleEntries
/-!
What holds of the schedule however the checking loop, its probes and its callers interleave. The
queue is a heap in order whose entries record their positions; the map from names finds the one
check of each name, so the due times list each scheduled name once; and only names of the roster
are scheduled. Between ticks of a loop that was not cancelled every name of the roster is
scheduled: a tick takes out only checks whose probes put them back when they end.
-/
namespace ProxyRouter.Health

open ScheduleQueue

namespace Schedule

theorem name_of_mem_putByName {acc : List (String × Pool.ProxyIdentity)}
    (hacc : ∀ p ∈ acc, p.2.name = p.1) (id : Pool.ProxyIdentity)
    {p : String × Pool.ProxyIdentity} (hp : p ∈ putByName acc id) : p.2.name = p.1 := by
  unfold putByName at hp
  split at hp
  · obtain ⟨q, hq, rfl⟩ := List.mem_map.1 hp
    split
    · rfl
    · exact hacc q hq
  · rcases List.mem_append.1 hp with hp | hp
    · exact hacc p hp
    · rw [List.mem_singleton.1 hp]

theorem name_of_mem_byName (ids : List Pool.ProxyIdentity) {p : String × Pool.ProxyIdentity}
    (hp : p ∈ byName ids) : p.2.name = p.1 := by
  have key : ∀ (l : List Pool.ProxyIdentity) acc, (∀ p ∈ acc, p.2.name = p.1) →
      ∀ p ∈ l.foldl putByName acc, p.2.name = p.1 := by
    intro l
    induction l with
    | nil => exact fun _ h => h
    | cons id l ih => exact fun acc h => ih _ fun _ hp => name_of_mem_putByName h id hp
  exact key ids [] (by simp) p hp

/-- A consistent schedule whose roster lists each proxy under its name, and whose scheduled names
are all on the roster. -/
structure WF (s : Schedule) : Prop extends s.Consistent where
  roster_name : ∀ p ∈ s.roster, p.2.name = p.1
  on_roster : ∀ n ∈ s.names, n ∈ s.roster.map Prod.fst

theorem WF.new (config : SchedulerConfig) : ({ config := config } : Schedule).WF where
  indexed := ⟨fun _ h => absurd h (Nat.not_lt_zero _), fun _ h => absurd h (Nat.not_lt_zero _)⟩
  ordered _ _ h := absurd h (Nat.not_lt_zero _)
  nodup := List.nodup_nil
  name := by simp
  queued := by simp
  entry _ h := absurd h.choose_spec.1 (Nat.not_lt_zero _)
  length := rfl
  roster_name := by simp
  on_roster := by simp [names]

section
variable {s : Schedule}

theorem WF.sync (h : s.WF) (now : Instant) (grade : String → HealthState)
    (ids : List Pool.ProxyIdentity) : (s.sync now grade ids).WF := by
  obtain ⟨hc, hr, hn⟩ := h.toConsistent.sync now grade ids
  refine ⟨hc, fun p hp => name_of_mem_byName ids (hr ▸ hp), fun n hn' => ?_⟩
  rw [hr]
  exact (hn n).1 hn'

theorem WF.popDue (h : s.WF) (now : Instant) : (s.popDue now).2.WF := by
  obtain ⟨hc, hr, hn, -⟩ := h.toConsistent.popDue now
  refine ⟨hc, ?_, fun n hn' => ?_⟩
  · rw [hr]
    exact h.roster_name
  · rw [hr]
    exact h.on_roster n (hn n hn')

theorem WF.reschedule (h : s.WF) (now : Instant) (grade : HealthState) (name : String) :
    (s.reschedule now grade name).WF := by
  refine ⟨h.toConsistent.reschedule now grade name, ?_, fun n hn => ?_⟩
  · rw [roster_reschedule]
    exact h.roster_name
  · rw [roster_reschedule]
    rcases (mem_names_reschedule s now grade name).1 hn with hn | ⟨rfl, hr⟩
    · exact h.on_roster n hn
    · exact hr

end

/-- The queue is a heap in order whose entries record their positions; the map from names finds
the one check of each name, the due times list each scheduled name once, and every scheduled name
is on the roster. -/
structure QueueContract (s : Schedule) : Prop where
  heap : s.queue.Ordered s.queue.len
  index : ∀ p < s.queue.len, (s.queue.entryAt p).index = p
  find : ∀ name a, s.entryOf? name = some a ↔
    s.queue.Queued a ∧ (s.queue.entry a).name = name
  one_per_name : ∀ a b, s.queue.Queued a → s.queue.Queued b →
    (s.queue.entry a).name = (s.queue.entry b).name → a = b
  pending_once : (s.pending.map Prod.fst).Nodup
  pending : ∀ name due, (name, due) ∈ s.pending ↔
    ∃ a, s.queue.Queued a ∧ (s.queue.entry a).name = name ∧ (s.queue.entry a).due = due
  length : s.queue.len = s.entries.length
  on_roster : ∀ a, s.queue.Queued a → (s.queue.entry a).name ∈ s.roster.map Prod.fst

theorem WF.contract {s : Schedule} (h : s.WF) : QueueContract s where
  heap := h.ordered
  index := h.indexed.index
  find _ _ := h.entryOf?_eq_some_iff
  one_per_name _ _ := h.queued_unique
  pending_once := h.pending_nodup
  pending _ _ := h.mem_pending
  length := h.length
  on_roster a ha := h.on_roster _ (h.queued_iff_mem_names.1 ⟨a, ha, rfl⟩)

end Schedule

namespace CheckLoop

open Schedule

/-- What every step of the loop keeps: the schedule is well formed, no probe runs between ticks,
and until the loop is cancelled each name of the roster is scheduled or being probed. -/
structure Invariant (l : CheckLoop) : Prop where
  wf : l.schedule.WF
  idle : l.ticking = false → l.probing = []
  covered : l.cancelled = false →
    ∀ n ∈ l.schedule.roster.map Prod.fst, n ∈ l.schedule.names ∨ n ∈ l.probing

theorem Invariant.start (config : SchedulerConfig) :
    Invariant { schedule := { config := config } } where
  wf := .new config
  idle _ := rfl
  covered _ n hn := by simp at hn

theorem mem_names_reschedule_of_mem {s : Schedule} {n : String} (hn : n ∈ s.names)
    (now : Instant) (grade : HealthState) (name : String) :
    n ∈ (s.reschedule now grade name).names :=
  (mem_names_reschedule s now grade name).2 (.inl hn)

theorem Invariant.step {l l' : CheckLoop} (h : l.Invariant) (hs : Step l l') : l'.Invariant := by
  cases hs with
  | sync now grade ids =>
    obtain ⟨-, hr, hn⟩ := h.wf.toConsistent.sync now grade ids
    refine ⟨h.wf.sync now grade ids, h.idle, fun _ n hn' => .inl ?_⟩
    -- the new roster's names are exactly the scheduled ones
    rw [hr] at hn'
    exact (hn n).2 hn'
  | reschedule now grade name =>
    refine ⟨h.wf.reschedule now grade name, h.idle, fun hc n hn => ?_⟩
    rw [roster_reschedule] at hn
    rcases h.covered hc n hn with h' | h'
    · exact .inl (mem_names_reschedule_of_mem h' now grade name)
    · exact .inr h'
  | tick now hidle =>
    obtain ⟨-, hr, -, hout⟩ := h.wf.toConsistent.popDue now
    refine ⟨h.wf.popDue now, fun h' => absurd h' (by simp), fun hc n hn => ?_⟩
    rw [hr] at hn
    -- no probe runs before the tick, so the name is scheduled
    have hs : n ∈ l.schedule.names := by
      rcases h.covered hc n hn with h' | h'
      · exact h'
      · rw [h.idle hidle] at h'
        cases h'
    by_cases hk : n ∈ (l.schedule.popDue now).2.names
    · exact .inl hk
    · -- taken out: its proxy's probe is running
      obtain ⟨p, hp, rfl, hpo⟩ := hout n hs hk hn
      exact .inr (List.mem_map.2 ⟨p.2, hpo, h.wf.roster_name p hp⟩)
  | finish now grade name hmem =>
    refine ⟨h.wf.reschedule now grade name, fun ht => by rw [h.idle ht]; rfl, fun hc n hn => ?_⟩
    rw [roster_reschedule] at hn
    rcases h.covered hc n hn with h' | h'
    · exact .inl (mem_names_reschedule_of_mem h' now grade name)
    · by_cases hne : n = name
      · -- the probe that ended puts its proxy back, as it is on the roster
        subst hne
        exact .inl ((mem_names_reschedule l.schedule now grade n).2 (.inr ⟨rfl, hn⟩))
      · exact .inr ((List.mem_erase_of_ne hne).2 h')
  | abandon name _ hcan =>
    refine ⟨h.wf, fun ht => by rw [h.idle ht]; rfl, fun hc => ?_⟩
    simp [hcan] at hc
  | endTick hp =>
    exact ⟨h.wf, fun _ => hp, h.covered⟩
  | cancel =>
    exact ⟨h.wf, h.idle, fun hc => absurd hc (by simp)⟩

theorem Reachable.invariant {l : CheckLoop} (h : l.Reachable) : l.Invariant := by
  induction h with
  | start config => exact .start config
  | step _ hs ih => exact ih.step hs

end CheckLoop

/-- However the loop, its probes and its callers interleave, the schedule keeps its contract;
and between ticks of a loop that was not cancelled, the scheduled names are the roster's. -/
theorem schedule_queue_invariant {l : CheckLoop} (h : l.Reachable) :
    Schedule.QueueContract l.schedule ∧
      (l.ticking = false → l.cancelled = false → ∀ name,
        (∃ a, l.schedule.queue.Queued a ∧ (l.schedule.queue.entry a).name = name) ↔
          name ∈ l.schedule.roster.map Prod.fst) := by
  have hi := h.invariant
  refine ⟨hi.wf.contract, fun ht hc n => ?_⟩
  rw [hi.wf.queued_iff_mem_names]
  constructor
  · exact hi.wf.on_roster n
  · intro hn
    rcases hi.covered hc n hn with h' | h'
    · exact h'
    · rw [hi.idle ht] at h'
      cases h'

theorem schedule_queue_invariant_after_sync :
    CheckLoop.Reachable ⟨({ config := default } : Schedule).sync Instant.zero
      (fun _ => .unknown) [{ name := "a" }, { name := "b" }], [], false, false⟩ ∧
    Schedule.QueueContract (({ config := default } : Schedule).sync Instant.zero
      (fun _ => .unknown) [{ name := "a" }, { name := "b" }]) ∧
    ∀ name, (∃ a, ((({ config := default } : Schedule).sync Instant.zero (fun _ => .unknown)
        [{ name := "a" }, { name := "b" }]).queue.Queued a ∧
        ((({ config := default } : Schedule).sync Instant.zero (fun _ => .unknown)
          [{ name := "a" }, { name := "b" }]).queue.entry a).name = name)) ↔
      name ∈ (({ config := default } : Schedule).sync Instant.zero (fun _ => .unknown)
        [{ name := "a" }, { name := "b" }]).roster.map Prod.fst :=
  have hr : CheckLoop.Reachable ⟨({ config := default } : Schedule).sync Instant.zero
      (fun _ => .unknown) [{ name := "a" }, { name := "b" }], [], false, false⟩ :=
    .step (.start _) (.sync _ Instant.zero (fun _ => .unknown) [{ name := "a" }, { name := "b" }])
  ⟨hr, (schedule_queue_invariant hr).1, (schedule_queue_invariant hr).2 rfl rfl⟩

end ProxyRouter.Health
