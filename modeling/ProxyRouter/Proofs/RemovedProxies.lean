import ProxyRouter.App.Monitoring
import ProxyRouter.Proofs.CheckLoop
import ProxyRouter.Proofs.NewestSample
import ProxyRouter.Proofs.StoredSettings
/-!
What a proxy that left the roster leaves behind in the monitoring. Following the roster change
drops its history, its gauges and its scheduled check, and the schedule never takes it back: a
tick takes out only checks of proxies on the roster, and a probe that ends reschedules only a proxy
on the roster. Nothing begins a probe of it afterwards. But a probe of it already in flight still
records its sample when it ends, and the service takes the sample in, so the proxy's history and
its gauges come back. Once the roster changes, the proxy is never scheduled again; it has no
history and no gauges as long as no probe of it was in flight at the change.
-/
namespace ProxyRouter

open Pool Health App

namespace Metrics

theorem Gauges.labels_map {f : String × Float → String × Float} (hf : ∀ p, (f p).1 = p.1)
    (g : Gauges) : (g.map f).map Prod.fst = g.map Prod.fst := by
  rw [List.map_map]
  exact List.map_congr_left fun p _ => hf p

theorem Gauges.mem_put {g : Gauges} {label n : String} (v : Float) :
    n ∈ (g.put label v).map Prod.fst ↔ n = label ∨ n ∈ g.map Prod.fst := by
  unfold Gauges.put
  split
  · rename_i hany
    -- setting a present label keeps every label where it is
    rw [Gauges.labels_map]
    · constructor
      · exact .inr
      · rintro (rfl | h)
        · obtain ⟨p, hp, hpl⟩ := List.any_eq_true.1 hany
          exact List.mem_map.2 ⟨p, hp, by simpa using hpl⟩
        · exact h
    · intro p
      obtain ⟨l, x⟩ := p
      dsimp only
      split <;> rfl
  · simp [or_comm]

theorem Gauges.not_mem_put {g : Gauges} {label n : String} (v : Float) (hg : n ∉ g.map Prod.fst)
    (hn : n ≠ label) : n ∉ (g.put label v).map Prod.fst := by
  rw [Gauges.mem_put]
  rintro (h | h)
  exacts [hn h, hg h]

theorem Gauges.mem_drop {g : Gauges} {label n : String} :
    n ∈ (g.drop label).map Prod.fst ↔ n ≠ label ∧ n ∈ g.map Prod.fst := by
  simp only [Gauges.drop, List.mem_map, List.mem_filter, bne_iff_ne, ne_eq]
  constructor
  · rintro ⟨p, ⟨hp, hpl⟩, rfl⟩
    exact ⟨hpl, p, hp, rfl⟩
  · rintro ⟨hn, p, hp, rfl⟩
    exact ⟨p, ⟨hp, hn⟩, rfl⟩

theorem Gauges.mem_foldl_drop {n : String} {removed : List String} {g : Gauges} :
    n ∈ (removed.foldl Gauges.drop g).map Prod.fst ↔ n ∉ removed ∧ n ∈ g.map Prod.fst := by
  induction removed generalizing g with
  | nil => simp
  | cons r rs ih =>
    rw [List.foldl_cons, ih, Gauges.mem_drop, List.mem_cons]
    tauto

theorem MetricsRegistry.observeSample_gauges {r : MetricsRegistry} {name n : String}
    (x : HealthSample) (state : Int) (hn : n ≠ name)
    (hs : n ∉ r.proxyScore.map Prod.fst ∧ n ∉ r.proxyState.map Prod.fst) :
    n ∉ (r.observeSample name x state).proxyScore.map Prod.fst ∧
      n ∉ (r.observeSample name x state).proxyState.map Prod.fst :=
  ⟨Gauges.not_mem_put _ hs.1 hn, Gauges.not_mem_put _ hs.2 hn⟩

theorem MetricsRegistry.setRoster_gauges (r : MetricsRegistry) (current : List String)
    {removed : List String} {n : String} (h : n ∈ removed) :
    n ∉ (r.setRoster current removed).proxyScore.map Prod.fst ∧
      n ∉ (r.setRoster current removed).proxyState.map Prod.fst :=
  ⟨fun hs => (Gauges.mem_foldl_drop.1 hs).1 h, fun hs => (Gauges.mem_foldl_drop.1 hs).1 h⟩

end Metrics

namespace Health.Tracker

theorem history?_eq_none_iff {t : Tracker} {n : String} :
    t.history? n = none ↔ ∀ p ∈ t.histories, p.1 ≠ n := by
  simp [history?]

theorem history?_addAt_of_ne (t : Tracker) (now : Instant) {name n : String} (score : Float)
    (time : Instant) (h : n ≠ name) : (t.addAt now name score time).history? n = t.history? n := by
  simp [addAt, history?_setHistory, h]

theorem record_cases (t : Tracker) (now : Instant) (name : String) (x : HealthSample) :
    (t.record now name x).2 = t ∨ ∃ time, (t.record now name x).2 = t.addAt now name x.overallScore time := by
  unfold record
  dsimp only
  generalize (if x.timestamp.isZero then now else x.timestamp) = time
  split
  · split
    · exact .inl rfl
    · exact .inr ⟨time, rfl⟩
  · exact .inr ⟨time, rfl⟩

theorem history?_record_of_ne (t : Tracker) (now : Instant) {name n : String} (x : HealthSample)
    (h : n ≠ name) : (t.record now name x).2.history? n = t.history? n := by
  rcases record_cases t now name x with hr | ⟨time, hr⟩ <;> rw [hr]
  exact history?_addAt_of_ne t now _ time h

theorem history?_recordAll_of_ne (t : Tracker) (now : Instant) {n : String} :
    ∀ {samples : List (String × HealthSample)}, (∀ p ∈ samples, p.1 ≠ n) →
      (t.recordAll now samples).history? n = t.history? n
  | [], _ => rfl
  | p :: ps, h => by
    have hp : n ≠ p.1 := fun e => h p List.mem_cons_self e.symm
    have hrest : ∀ q ∈ ps, q.1 ≠ n := fun q hq => h q (List.mem_cons_of_mem p hq)
    unfold recordAll at *
    rw [List.foldl_cons]
    exact (history?_recordAll_of_ne (t.record now p.1 p.2).2 now hrest).trans
      (history?_record_of_ne t now p.2 hp)

theorem history?_retain_of_not_mem (t : Tracker) {keep : List String} {n : String}
    (h : n ∉ keep) : (t.retain keep).history? n = none := by
  rw [history?_eq_none_iff]
  intro p hp hpn
  subst hpn
  simp only [retain, List.mem_filter] at hp
  exact h (by simpa using hp.2)

theorem mem_insertName {x y : String} {l : List String} : x ∈ insertName y l ↔ x = y ∨ x ∈ l := by
  induction l with
  | nil => simp [insertName]
  | cons z l ih =>
    unfold insertName
    split
    · simp
    · simp only [List.mem_cons, ih]
      tauto

theorem mem_names {t : Tracker} {n : String} : n ∈ t.names ↔ ∃ p ∈ t.histories, p.1 = n := by
  have key : ∀ (l : List (String × History)) (acc : List String),
      n ∈ l.foldl (fun acc p => insertName p.1 acc) acc ↔ n ∈ acc ∨ ∃ p ∈ l, p.1 = n := by
    intro l
    induction l with
    | nil => simp
    | cons q l ih =>
      intro acc
      rw [List.foldl_cons, ih, mem_insertName]
      simp only [List.mem_cons, exists_eq_or_imp]
      tauto
  simp [names, key]

theorem not_mem_names {t : Tracker} {n : String} (h : t.history? n = none) : n ∉ t.names := by
  rw [mem_names]
  rintro ⟨p, hp, rfl⟩
  exact history?_eq_none_iff.1 h p hp rfl

theorem not_mem_all {t : Tracker} {n : String} (h : t.history? n = none) :
    n ∉ t.all.map Prod.fst := by
  intro hmem
  obtain ⟨⟨a, i⟩, hp, rfl⟩ := List.mem_map.1 hmem
  obtain ⟨m, hm, hmi⟩ := List.mem_filterMap.1 hp
  obtain ⟨j, -, hj⟩ := Option.map_eq_some_iff.1 hmi
  obtain rfl : m = a := congrArg Prod.fst hj
  exact not_mem_names h hm

theorem isSome_history?_record_self (t : Tracker) (now : Instant) (name : String)
    (x : HealthSample) : ((t.record now name x).2.history? name).isSome := by
  unfold record
  dsimp only
  generalize (if x.timestamp.isZero then now else x.timestamp) = time
  split
  · rename_i h hh
    split
    · simp [hh]
    · simp [addAt, history?_setHistory]
  · simp [addAt, history?_setHistory]

theorem isSome_history?_record (t : Tracker) (now : Instant) {name n : String} (x : HealthSample)
    (h : (t.history? n).isSome) : ((t.record now name x).2.history? n).isSome := by
  by_cases hn : n = name
  · subst hn
    exact isSome_history?_record_self t now n x
  · rwa [history?_record_of_ne t now x hn]

theorem isSome_history?_recordAll (t : Tracker) (now : Instant) {n : String}
    (samples : List (String × HealthSample)) (h : (t.history? n).isSome) :
    ((t.recordAll now samples).history? n).isSome := by
  induction samples generalizing t with
  | nil => exact h
  | cons p ps ih => exact ih _ (isSome_history?_record t now p.2 h)

end Health.Tracker

theorem Health.Checker.not_mem_allInfo {c : Checker} {n : String}
    (h : c.tracker.history? n = none) : n ∉ c.allInfo.map Prod.fst := by
  unfold Checker.allInfo
  split
  · exact Tracker.not_mem_all h
  · simp

namespace Health.Schedule

theorem fst_mem_byName {ids : List ProxyIdentity} {a : String} (h : a ∈ (byName ids).map Prod.fst) :
    a ∈ Pool.names ids := by
  have key : ∀ (l : List ProxyIdentity) (acc : List (String × ProxyIdentity)),
      a ∈ (l.foldl putByName acc).map Prod.fst → a ∈ acc.map Prod.fst ∨ a ∈ Pool.names l := by
    intro l
    induction l with
    | nil => exact fun _ h => .inl h
    | cons id l ih =>
      intro acc hmem
      rcases ih _ hmem with h' | h'
      · -- a name of `putByName acc id` is one of `acc` or the new proxy's
        unfold putByName at h'
        split at h'
        · simp only [List.map_map, List.mem_map, Function.comp_apply] at h'
          obtain ⟨p, hp, hpa⟩ := h'
          split at hpa
          · exact .inr (by simp [Pool.names, ← hpa])
          · exact .inl (List.mem_map.2 ⟨p, hp, hpa⟩)
        · simp only [List.map_append, List.mem_append, List.map_cons, List.map_nil,
            List.mem_singleton] at h'
          rcases h' with h' | rfl
          · exact .inl h'
          · exact .inr (by simp [Pool.names])
      · exact .inr (by simp only [Pool.names, List.map_cons, List.mem_cons] at h' ⊢; exact .inr h')
  rcases key ids [] h with h' | h'
  · simp at h'
  · exact h'

theorem WF.withRunning {s : Schedule} (h : s.WF) (b : Bool) : ({ s with running := b } : Schedule).WF :=
  { toConsistent := { h.toConsistent with }, roster_name := h.roster_name, on_roster := h.on_roster }

theorem name_mem_roster_of_popDue {s : Schedule} (hr : ∀ p ∈ s.roster, p.2.name = p.1)
    (now : Instant) : ∀ id ∈ (s.popDue now).1, id.name ∈ s.roster.map Prod.fst := by
  -- on the length of the queue, as `popDue` recurses on a shorter queue with the same roster
  induction hl : s.queue.len using Nat.strong_induction_on generalizing s with
  | _ len ih =>
    rw [Schedule.popDue]
    split
    · rename_i hdue
      intro id hid
      rcases List.mem_append.1 hid with hid | hid
      · obtain ⟨p, hp, rfl⟩ : ∃ p, s.roster.find? _ = some p ∧ p.2 = id := by
          simpa using hid
        have hmem := List.mem_of_find?_eq_some hp
        exact List.mem_map.2 ⟨p, hmem, (hr p hmem).symm⟩
      · -- the check taken out leaves the roster as it was
        refine (ih _ ?_ ?_ rfl id hid : _)
        · rw [← hl, ScheduleQueue.len_pop]
          omega
        · exact hr
    · simp

end Health.Schedule

namespace Selection.Selector

@[simp] theorem roster_updateHealth (s : Selector) (now : Instant)
    (results : List (String × HealthSample)) : (s.updateHealth now results).roster = s.roster := by
  have key : ∀ (l : List (String × HealthSample)) (s : Selector),
      (l.foldl (fun s r => s.merge r.1 r.2) s).roster = s.roster := by
    intro l
    induction l with
    | nil => exact fun _ => rfl
    | cons r l ih => exact fun s => ih _
  exact key results s

end Selection.Selector

namespace Console.RouterState

variable (s : RouterState) (samples : List (String × HealthSample))

@[simp] theorem schedule_updateHealth :
    (s.updateHealth samples).checker.schedule = s.checker.schedule := by
  unfold updateHealth
  dsimp only
  split <;> rfl

@[simp] theorem strategy_updateHealth :
    (s.updateHealth samples).checker.strategy = s.checker.strategy := by
  unfold updateHealth
  dsimp only
  split <;> rfl

@[simp] theorem metrics_updateHealth : (s.updateHealth samples).metrics = s.metrics := by
  unfold updateHealth
  dsimp only
  split <;> rfl

@[simp] theorem clock_updateHealth : (s.updateHealth samples).clock = s.clock := by
  unfold updateHealth
  dsimp only
  split <;> rfl

@[simp] theorem roster_updateHealth :
    (s.updateHealth samples).router.selector.roster = s.router.selector.roster := by
  unfold updateHealth
  dsimp only
  split <;> simp

theorem history?_updateHealth_of_ne {n : String} (h : ∀ p ∈ samples, p.1 ≠ n) :
    (s.updateHealth samples).checker.tracker.history? n = s.checker.tracker.history? n := by
  unfold updateHealth
  dsimp only
  split
  · exact Tracker.history?_recordAll_of_ne _ _ h
  · rfl

end Console.RouterState

namespace App.Service

variable {ν : Type} (s : Service ν) (name : String) (x : HealthSample)

@[simp] theorem schedule_onSample :
    (s.onSample name x).shared.checker.schedule = s.shared.checker.schedule := by
  simp [onSample]

@[simp] theorem strategy_onSample :
    (s.onSample name x).shared.checker.strategy = s.shared.checker.strategy := by
  simp [onSample]

@[simp] theorem clock_onSample : (s.onSample name x).shared.clock = s.shared.clock := by
  simp [onSample]

@[simp] theorem roster_onSample :
    (s.onSample name x).shared.router.selector.roster = s.shared.router.selector.roster := by
  simp [onSample]

theorem isSome_history?_onSample {n : String} (h : (s.shared.checker.tracker.history? n).isSome) :
    ((s.onSample name x).shared.checker.tracker.history? n).isSome := by
  simp only [onSample, Console.RouterState.updateHealth]
  split
  · exact Tracker.isSome_history?_recordAll _ _ _ h
  · exact h

theorem mem_gauges_onSample :
    name ∈ (s.onSample name x).shared.metrics.proxyScore.map Prod.fst ∧
      name ∈ (s.onSample name x).shared.metrics.proxyState.map Prod.fst := by
  simp only [onSample, Console.RouterState.metrics_updateHealth,
    Metrics.MetricsRegistry.observeSample]
  exact ⟨Metrics.Gauges.mem_put _ |>.2 (.inl rfl), Metrics.Gauges.mem_put _ |>.2 (.inl rfl)⟩

theorem history?_onSample_of_ne {n : String} (hn : n ≠ name) :
    (s.onSample name x).shared.checker.tracker.history? n = s.shared.checker.tracker.history? n :=
  Console.RouterState.history?_updateHealth_of_ne _ _ (by simpa using Ne.symm hn)

theorem gauges_onSample_of_ne {n : String} (hn : n ≠ name)
    (hs : n ∉ s.shared.metrics.proxyScore.map Prod.fst ∧
      n ∉ s.shared.metrics.proxyState.map Prod.fst) :
    n ∉ (s.onSample name x).shared.metrics.proxyScore.map Prod.fst ∧
      n ∉ (s.onSample name x).shared.metrics.proxyState.map Prod.fst := by
  simp only [onSample, Console.RouterState.metrics_updateHealth]
  exact Metrics.MetricsRegistry.observeSample_gauges x _ hn hs

end App.Service

namespace Health.Checker

@[simp] theorem schedule_recordSample (c : Checker) (now : Instant) (name : String)
    (x : HealthSample) : (c.recordSample now name x).schedule = c.schedule := rfl

theorem tracker_followRoster (c : Checker) (now : Instant) (ids : List ProxyIdentity) :
    (c.followRoster now ids).tracker = c.tracker.retain (names ids) := by
  unfold followRoster
  dsimp only
  split
  · split <;> rfl
  · rfl

@[simp] theorem strategy_followRoster (c : Checker) (now : Instant) (ids : List ProxyIdentity) :
    (c.followRoster now ids).strategy = c.strategy := by
  unfold followRoster
  dsimp only
  split
  · split <;> rfl
  · rfl

theorem schedule_followRoster (c : Checker) (now : Instant) (ids : List ProxyIdentity) :
    (c.followRoster now ids).schedule = c.schedule.map fun sc =>
      if sc.running then sc.sync now (c.tracker.retain (names ids)).classify ids else sc := by
  unfold followRoster
  dsimp only
  split
  · rename_i sc hsc
    split <;> simp_all
  · simp_all

end Health.Checker

theorem Metrics.MetricsRegistry.gauges_observeRosterRefresh (r : MetricsRegistry) (ok : Bool)
    (size : Int) : (r.observeRosterRefresh ok size).proxyScore = r.proxyScore ∧
      (r.observeRosterRefresh ok size).proxyState = r.proxyState := by
  unfold observeRosterRefresh
  split <;> exact ⟨rfl, rfl⟩

namespace App

namespace Service

variable {ν : Type} (s : Service ν) (f : Checker → Checker)

@[simp] theorem checker_mapChecker : (s.mapChecker f).shared.checker = f s.shared.checker := rfl

@[simp] theorem router_mapChecker : (s.mapChecker f).shared.router = s.shared.router := rfl

@[simp] theorem metrics_mapChecker : (s.mapChecker f).shared.metrics = s.shared.metrics := rfl

@[simp] theorem clock_mapChecker : (s.mapChecker f).shared.clock = s.shared.clock := rfl

end Service

namespace Monitoring

variable {ν : Type}

@[simp] theorem schedule_recordProbe (c : Checker) (now : Instant) (run : ProbeRun)
    (x : HealthSample) : (recordProbe c now run x).schedule = c.schedule := by
  unfold recordProbe
  split <;> rfl

@[simp] theorem strategy_recordProbe (c : Checker) (now : Instant) (run : ProbeRun)
    (x : HealthSample) : (recordProbe c now run x).strategy = c.strategy := by
  unfold recordProbe
  split <;> rfl

theorem history?_recordProbe_of_ne (c : Checker) (now : Instant) (run : ProbeRun)
    (x : HealthSample) {n : String} (hn : n ≠ run.proxy.name) :
    (recordProbe c now run x).tracker.history? n = c.tracker.history? n := by
  unfold recordProbe
  split
  · exact Tracker.history?_record_of_ne _ _ x hn
  · rfl

@[simp] theorem tracker_rescheduleProbe (c : Checker) (now : Instant) (run : ProbeRun) :
    (rescheduleProbe c now run).tracker = c.tracker := by
  unfold rescheduleProbe
  split <;> rfl

theorem schedule_rescheduleProbe (c : Checker) (now : Instant) (run : ProbeRun) :
    (rescheduleProbe c now run).schedule = c.schedule ∨ ∃ grade,
      (rescheduleProbe c now run).schedule =
        c.schedule.map fun sc => sc.reschedule now grade run.proxy.name := by
  unfold rescheduleProbe
  split
  · exact .inr ⟨_, rfl⟩
  · exact .inl rfl

def ScheduleAvoids (o : Option Schedule) (n : String) : Prop :=
  ∀ sc, o = some sc → sc.WF ∧ n ∉ sc.roster.map Prod.fst

theorem ScheduleAvoids.reschedule {o : Option Schedule} {n : String} (h : ScheduleAvoids o n)
    (now : Instant) (grade : HealthState) (name : String) :
    ScheduleAvoids (o.map fun sc => sc.reschedule now grade name) n := by
  intro sc' hsc'
  obtain ⟨sc, hsc, rfl⟩ := Option.map_eq_some_iff.1 hsc'
  obtain ⟨hwf, hn⟩ := h sc hsc
  exact ⟨hwf.reschedule now grade name, by rwa [Schedule.roster_reschedule]⟩

theorem ScheduleAvoids.not_mem_pending {o : Option Schedule} {n : String}
    (h : ScheduleAvoids o n) {sc : Schedule} (hsc : o = some sc) :
    n ∉ sc.pending.map Prod.fst := by
  obtain ⟨hwf, hn⟩ := h sc hsc
  intro hmem
  obtain ⟨⟨a, due⟩, hp, rfl⟩ := List.mem_map.1 hmem
  obtain ⟨i, hq, hname, -⟩ := hwf.toConsistent.mem_pending.1 hp
  exact hn (hwf.on_roster _ (hwf.queued_iff_mem_names.1 ⟨i, hq, hname⟩))

section TakeSample

variable (s : Service ν) (run : ProbeRun) (x : HealthSample)

@[simp] theorem roster_takeSample :
    (takeSample s run x).shared.router.selector.roster = s.shared.router.selector.roster := by
  simp [takeSample]

@[simp] theorem strategy_takeSample :
    (takeSample s run x).shared.checker.strategy = s.shared.checker.strategy := by
  unfold takeSample rescheduleProbe
  split <;> simp

theorem avoids_takeSample {n : String} (h : ScheduleAvoids s.shared.checker.schedule n) :
    ScheduleAvoids (takeSample s run x).shared.checker.schedule n := by
  -- recording the sample and the service taking it in leave the schedule alone
  have h' : ScheduleAvoids ((s.mapChecker (recordProbe · s.shared.clock run x)).onSample
      run.proxy.name x).shared.checker.schedule n := by simpa using h
  unfold takeSample
  rw [Service.checker_mapChecker]
  rcases schedule_rescheduleProbe _ s.shared.clock run with he | ⟨grade, he⟩ <;> rw [he]
  · exact h'
  · exact h'.reschedule _ grade _

theorem takeSample_restores (hrec : run.scheduled = true ∨ s.shared.checker.strategy = .adaptive) :
    ((takeSample s run x).shared.checker.tracker.history? run.proxy.name).isSome ∧
      run.proxy.name ∈ (takeSample s run x).shared.metrics.proxyScore.map Prod.fst ∧
      run.proxy.name ∈ (takeSample s run x).shared.metrics.proxyState.map Prod.fst := by
  have hrecorded : ((recordProbe s.shared.checker s.shared.clock run x).tracker.history?
      run.proxy.name).isSome := by
    unfold recordProbe
    rw [if_pos (by rcases hrec with h | h <;> simp [h])]
    exact Tracker.isSome_history?_record_self _ _ _ x
  unfold takeSample
  rw [Service.checker_mapChecker, tracker_rescheduleProbe, Service.metrics_mapChecker]
  exact ⟨Service.isSome_history?_onSample _ _ _ hrecorded, Service.mem_gauges_onSample _ _ _⟩

theorem history?_takeSample_of_ne {n : String} (hn : n ≠ run.proxy.name) :
    (takeSample s run x).shared.checker.tracker.history? n =
      s.shared.checker.tracker.history? n := by
  unfold takeSample
  rw [Service.checker_mapChecker, tracker_rescheduleProbe, Service.history?_onSample_of_ne _ _ _ hn,
    Service.checker_mapChecker]
  exact history?_recordProbe_of_ne _ _ _ x hn

theorem gauges_takeSample_of_ne {n : String} (hn : n ≠ run.proxy.name)
    (hs : n ∉ s.shared.metrics.proxyScore.map Prod.fst ∧
      n ∉ s.shared.metrics.proxyState.map Prod.fst) :
    n ∉ (takeSample s run x).shared.metrics.proxyScore.map Prod.fst ∧
      n ∉ (takeSample s run x).shared.metrics.proxyState.map Prod.fst := by
  unfold takeSample
  rw [Service.metrics_mapChecker]
  exact Service.gauges_onSample_of_ne _ _ x hn hs

end TakeSample

/-- Nothing can begin a probe of the proxy: it is off the selector's roster, which a check of the
whole roster probes, and off the schedule's, whose checks alone a tick takes out. -/
structure Unscheduled (m : Monitoring ν) (n : String) : Prop where
  off_selector : n ∉ names m.service.shared.router.selector.roster
  off_schedule : ScheduleAvoids m.service.shared.checker.schedule n

/-- No probe of the proxy is in flight, and it has no history and no gauges. -/
structure Forgotten (m : Monitoring ν) (n : String) : Prop where
  idle : ∀ p ∈ m.probes, p.proxy.name ≠ n
  no_history : m.service.shared.checker.tracker.history? n = none
  no_score : n ∉ m.service.shared.metrics.proxyScore.map Prod.fst
  no_state : n ∉ m.service.shared.metrics.proxyState.map Prod.fst

def Quiet (e : MonitorEvent) : Prop := ∀ change, e ≠ .rosterChange change

variable {m : Monitoring ν} {n : String}

theorem Unscheduled.not_mem_nextChecks (h : m.Unscheduled n) :
    n ∉ m.service.shared.checker.nextChecks.map Prod.fst := by
  unfold Checker.nextChecks
  split
  · rename_i sc hsc
    exact h.off_schedule.not_mem_pending hsc
  · simp

/-- A tick takes out checks of proxies on the schedule's roster only, and keeps that roster. -/
theorem Unscheduled.tick (h : m.Unscheduled n) :
    (m.step .tick).Unscheduled n ∧ ∀ p ∈ (m.step .tick).probes, p ∈ m.probes ∨ p.proxy.name ≠ n := by
  rw [Monitoring.step]
  split
  · rename_i sc hsc
    obtain ⟨hwf, hn⟩ := h.off_schedule sc hsc
    split
    · obtain ⟨-, hroster, -⟩ := hwf.toConsistent.popDue m.service.shared.clock
      refine ⟨⟨h.off_selector, ?_⟩, ?_⟩
      · intro sc' hsc'
        obtain rfl : (sc.popDue m.service.shared.clock).2 = sc' := by simpa using hsc'
        exact ⟨hwf.popDue _, by rwa [hroster]⟩
      · intro p hp
        rcases List.mem_append.1 hp with hp | hp
        · exact .inl hp
        · obtain ⟨id, hid, rfl⟩ := List.mem_map.1 hp
          refine .inr fun hname => hn ?_
          rw [← hname]
          exact Schedule.name_mem_roster_of_popDue hwf.roster_name _ id hid
    · exact ⟨h, fun p hp => .inl hp⟩
  · exact ⟨h, fun p hp => .inl hp⟩

theorem Unscheduled.step (h : m.Unscheduled n) {e : MonitorEvent} (he : Quiet e) :
    (m.step e).Unscheduled n := by
  cases e with
  | tick => exact h.tick.1
  | checkAll => exact ⟨h.off_selector, h.off_schedule⟩
  | finish i x =>
    rw [Monitoring.step]
    split
    · exact ⟨by simpa using h.off_selector, avoids_takeSample _ _ _ h.off_schedule⟩
    · exact h
  | abandon i => exact ⟨h.off_selector, h.off_schedule⟩
  | rosterChange change => exact absurd rfl (he change)
  | advance now => exact ⟨h.off_selector, h.off_schedule⟩

theorem Forgotten.step (hu : m.Unscheduled n) (h : m.Forgotten n) {e : MonitorEvent}
    (he : Quiet e) : (m.step e).Forgotten n := by
  cases e with
  | tick =>
    -- the tick changes the schedule only
    obtain ⟨-, hprobes⟩ := hu.tick
    have hsvc : (m.step .tick).service.shared.checker.tracker = m.service.shared.checker.tracker ∧
        (m.step .tick).service.shared.metrics = m.service.shared.metrics := by
      rw [Monitoring.step]
      split
      · split <;> exact ⟨rfl, rfl⟩
      · exact ⟨rfl, rfl⟩
    refine ⟨fun p hp => ?_, ?_, ?_, ?_⟩
    · rcases hprobes p hp with hp | hp
      exacts [h.idle p hp, hp]
    · rw [hsvc.1]
      exact h.no_history
    · rw [hsvc.2]
      exact h.no_score
    · rw [hsvc.2]
      exact h.no_state
  | checkAll =>
    refine ⟨fun p hp => ?_, h.no_history, h.no_score, h.no_state⟩
    rcases List.mem_append.1 hp with hp | hp
    · exact h.idle p hp
    · obtain ⟨id, hid, rfl⟩ := List.mem_map.1 hp
      exact fun hname => hu.off_selector (hname ▸ List.mem_map_of_mem hid)
  | finish i x =>
    rw [Monitoring.step]
    split
    · rename_i run hrun
      -- the probe that ends is of another proxy
      have hne : n ≠ run.proxy.name := (h.idle run (List.mem_of_getElem? hrun)).symm
      obtain ⟨hscore, hstate⟩ :=
        gauges_takeSample_of_ne m.service run x hne ⟨h.no_score, h.no_state⟩
      exact ⟨fun p hp => h.idle p (List.mem_of_mem_eraseIdx hp),
        (history?_takeSample_of_ne m.service run x hne).trans h.no_history, hscore, hstate⟩
    · exact h
  | abandon i =>
    exact ⟨fun p hp => h.idle p (List.mem_of_mem_eraseIdx hp), h.no_history, h.no_score,
      h.no_state⟩
  | rosterChange change => exact absurd rfl (he change)
  | advance now => exact ⟨h.idle, h.no_history, h.no_score, h.no_state⟩

theorem Unscheduled.run (h : m.Unscheduled n) {events : List MonitorEvent}
    (hquiet : ∀ e ∈ events, Quiet e) : (m.run events).Unscheduled n := by
  induction events generalizing m with
  | nil => exact h
  | cons e events ih =>
    exact ih (h.step (hquiet e List.mem_cons_self)) fun e' he' =>
      hquiet e' (List.mem_cons_of_mem e he')

theorem Forgotten.run (hu : m.Unscheduled n) (h : m.Forgotten n) {events : List MonitorEvent}
    (hquiet : ∀ e ∈ events, Quiet e) : (m.run events).Forgotten n := by
  induction events generalizing m with
  | nil => exact h
  | cons e events ih =>
    have he := hquiet e List.mem_cons_self
    exact ih (hu.step he) (h.step hu he) fun e' he' => hquiet e' (List.mem_cons_of_mem e he')

section RosterChange

variable {change : RosterChange}

theorem Unscheduled.rosterChange
    (hwf : ∀ sc, m.service.shared.checker.schedule = some sc → sc.WF ∧ sc.running = true)
    (hleft : n ∉ names change.current) : (m.step (.rosterChange change)).Unscheduled n := by
  refine ⟨by simpa [Monitoring.step, Service.followRoster, Console.RouterState.setRoster,
    Selection.Selector.setRoster] using hleft, ?_⟩
  intro sc' hsc'
  simp only [Monitoring.step, Service.followRoster, Health.Checker.schedule_followRoster,
    Console.RouterState.setRoster, Option.map_eq_some_iff] at hsc'
  obtain ⟨sc, hsc, rfl⟩ := hsc'
  obtain ⟨hwf, hrun⟩ := hwf sc hsc
  rw [if_pos hrun]
  obtain ⟨-, hroster, -⟩ := hwf.toConsistent.sync m.service.shared.clock
    (m.service.shared.checker.tracker.retain (names change.current)).classify change.current
  exact ⟨hwf.sync _ _ _, fun hmem => hleft (Schedule.fst_mem_byName (hroster ▸ hmem))⟩

theorem Forgotten.rosterChange (hidle : ∀ p ∈ m.probes, p.proxy.name ≠ n)
    (hremoved : n ∈ change.removed) (hleft : n ∉ names change.current) :
    (m.step (.rosterChange change)).Forgotten n := by
  obtain ⟨hscore, hstate⟩ := Metrics.MetricsRegistry.gauges_observeRosterRefresh
    ((m.service.shared.setRoster change.current).metrics.setRoster (names change.current)
      change.removed) true change.current.length
  obtain ⟨hscore', hstate'⟩ := Metrics.MetricsRegistry.setRoster_gauges
    (m.service.shared.setRoster change.current).metrics (names change.current) hremoved
  refine ⟨hidle, ?_, ?_, ?_⟩
  · simp only [Monitoring.step, Service.followRoster, Console.RouterState.setRoster,
      Health.Checker.tracker_followRoster]
    exact Tracker.history?_retain_of_not_mem _ hleft
  · simpa only [Monitoring.step, Service.followRoster, hscore] using hscore'
  · simpa only [Monitoring.step, Service.followRoster, hstate] using hstate'

end RosterChange

theorem finish_restores {i : Nat} {run : ProbeRun} (hrun : m.probes[i]? = some run)
    (x : HealthSample)
    (hrec : run.scheduled = true ∨ m.service.shared.checker.strategy = .adaptive) :
    (((m.step (.finish i x)).service.shared.checker.tracker.history? run.proxy.name).isSome ∧
      run.proxy.name ∈ (m.step (.finish i x)).service.shared.metrics.proxyScore.map Prod.fst ∧
      run.proxy.name ∈ (m.step (.finish i x)).service.shared.metrics.proxyState.map Prod.fst) := by
  simp only [Monitoring.step, hrun]
  exact takeSample_restores m.service run x hrec

/-- After a roster change that a proxy left, with the schedule running if there is one, and over
any run with no further roster change, the proxy has no check on the schedule. When no probe of it
was in flight at the change, none is in flight afterwards and it has no history, no summary and
no gauges. -/
theorem removed_proxy_leaves_no_monitoring_state {change : RosterChange}
    {events : List MonitorEvent}
    (hwf : ∀ sc, m.service.shared.checker.schedule = some sc → sc.WF ∧ sc.running = true)
    (hremoved : n ∈ change.removed) (hleft : n ∉ names change.current)
    (hquiet : ∀ e ∈ events, Quiet e) :
    let m' := (m.step (.rosterChange change)).run events
    n ∉ m'.service.shared.checker.nextChecks.map Prod.fst ∧
      ((∀ p ∈ m.probes, p.proxy.name ≠ n) →
        (∀ p ∈ m'.probes, p.proxy.name ≠ n) ∧
        m'.service.shared.checker.tracker.history? n = none ∧
        n ∉ m'.service.shared.checker.tracker.names ∧
        n ∉ m'.service.shared.checker.allInfo.map Prod.fst ∧
        n ∉ m'.service.shared.metrics.proxyScore.map Prod.fst ∧
        n ∉ m'.service.shared.metrics.proxyState.map Prod.fst) := by
  intro m'
  have hu : (m.step (.rosterChange change)).Unscheduled n := Unscheduled.rosterChange hwf hleft
  refine ⟨(hu.run hquiet).not_mem_nextChecks, fun hidle => ?_⟩
  have hf : m'.Forgotten n := (Forgotten.rosterChange hidle hremoved hleft).run hu hquiet
  exact ⟨hf.idle, hf.no_history, Tracker.not_mem_names hf.no_history,
    Checker.not_mem_allInfo hf.no_history, hf.no_score, hf.no_state⟩

def proxyA : ProxyIdentity := { name := "a" }

def proxyN : ProxyIdentity := { name := "n" }

def dropN : RosterChange := ⟨[proxyA], [], ["n"]⟩

def okSample : HealthSample := { success := true, overallScore := 1 }

/-- The service with both proxies on the roster, checking adaptively, in the background with no
check queued yet. -/
def watchedService : Service Unit where
  config := {}
  shared := { Console.RouterState.quietState with
    router := { Console.RouterState.quietState.router with
      selector := { Console.RouterState.quietState.router.selector with roster := [proxyA, proxyN] } }
    checker := { Console.RouterState.quietChecker with
      strategy := .adaptive, schedule := some { config := default, running := true } } }
  engine := ⟨"", "", "", ⟨0⟩, 0⟩
  ingress := ⟨"", .direct, ⟨0⟩⟩
  roster := { sources := [], persistent := false }
  files := []
  network := ⟨fun u _ _ => (.error "unreachable", u)⟩
  netState := ()

theorem removed_proxy_unscheduled_after_refresh :
    (∀ sc, watchedService.shared.checker.schedule = some sc → sc.WF ∧ sc.running = true) ∧
      "n" ∈ dropN.removed ∧ "n" ∉ names dropN.current ∧
      (∀ e ∈ [MonitorEvent.tick, .checkAll, .finish 0 okSample], Quiet e) ∧
      "n" ∉ ((({ service := watchedService } : Monitoring Unit).step (.rosterChange dropN)).run
        [.tick, .checkAll, .finish 0 okSample]).service.shared.checker.nextChecks.map Prod.fst :=
  have hwf : ∀ sc, watchedService.shared.checker.schedule = some sc → sc.WF ∧ sc.running = true :=
    fun sc hsc => by
      obtain rfl : { config := default, running := true } = sc := Option.some.inj hsc
      exact ⟨(Schedule.WF.new default).withRunning true, rfl⟩
  have hremoved : "n" ∈ dropN.removed := by simp [dropN]
  have hleft : "n" ∉ names dropN.current := by simp [dropN, names, proxyA]
  have hquiet : ∀ e ∈ [MonitorEvent.tick, .checkAll, .finish 0 okSample], Quiet e := by
    simp [Quiet]
  ⟨hwf, hremoved, hleft, hquiet,
    (removed_proxy_leaves_no_monitoring_state hwf hremoved hleft hquiet).1⟩

/-- A check of the whole roster begun before `proxyN` left and ending after the roster change
leaves `proxyN` with a history and gauges. -/
theorem in_flight_probe_outlives_removal :
    let m' := ({ service := watchedService } : Monitoring Unit).run
      [.checkAll, .rosterChange dropN, .finish 1 okSample]
    "n" ∈ dropN.removed ∧ "n" ∉ names dropN.current ∧
      (m'.service.shared.checker.tracker.history? "n").isSome ∧
      "n" ∈ m'.service.shared.metrics.proxyScore.map Prod.fst ∧
      "n" ∈ m'.service.shared.metrics.proxyState.map Prod.fst := by
  intro m'
  have hrun : ((({ service := watchedService } : Monitoring Unit).step .checkAll).step
      (.rosterChange dropN)).probes[1]? = some ⟨proxyN, false⟩ := rfl
  have hadaptive : ((({ service := watchedService } : Monitoring Unit).step .checkAll).step
      (.rosterChange dropN)).service.shared.checker.strategy = .adaptive := rfl
  exact ⟨by simp [dropN], by simp [dropN, names, proxyA],
    finish_restores hrun okSample (.inr hadaptive)⟩

end Monitoring

end App

end ProxyRouter
