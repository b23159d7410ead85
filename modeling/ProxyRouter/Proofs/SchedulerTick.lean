import ProxyRouter.Health.Tick
import ProxyRouter.Proofs.ScheduleDue
import ProxyRouter.Proofs.TrackerWindow
/-!
# A tick, however its probes interleave

A tick begun at `now` on a well-formed schedule `s` with the histories `t₀`, run by any steps its
probes may take: it took out one probe for each name due by `now`, the roster's proxy under that
name; never more probes run than the limiter has places; every check it did not take out keeps
its due time; a proxy whose probe has not ended is off the schedule, and one whose probe ended is
back one interval of the grade it read after the clock then. That grade is its history's once the
sample it took was recorded, and the sample went to the observers before. A history keeps a
sample only when it is newer than its last check, so the grade need not reflect the sample.
Whatever the schedule, the loop then sleeps until the earliest check is due, kept between a
second and thirty seconds. The checker's own tick, which probes the proxies it took out one after
the other, is one of these runs.
-/
namespace ProxyRouter.Health

open Pool

def ProbePhase.taken? : ProbePhase → Option (Instant × HealthSample)
  | .recorded time sample => some (time, sample)
  | .requeued _ _ taken => taken
  | _ => none

namespace Tracker

def afterProbe (t : Tracker) (n : String) : Option (Instant × HealthSample) → Tracker
  | none => t
  | some (time, x) => (t.record time n x).2

theorem history?_record_congr {t t' : Tracker} {n : String} (hh : t.history? n = t'.history? n)
    (hc : t.config = t'.config) (now : Instant) (x : HealthSample) :
    (t.record now n x).2.history? n = (t'.record now n x).2.history? n := by
  unfold Tracker.record
  dsimp only
  generalize (if x.timestamp.isZero then now else x.timestamp) = time
  rw [hh]
  cases t'.history? n with
  | none => simp [addAt, history?_setHistory, hh, hc]
  | some h =>
    by_cases hle : time ≤ h.lastCheck <;> simp [hle, addAt, history?_setHistory, hh, hc]

theorem classify_congr {t t' : Tracker} {n : String} (h : t.history? n = t'.history? n) :
    t.classify n = t'.classify n := by
  simp only [classify, h]

end Tracker

/-! ### The probes of a tick -/

section Probes

variable {l : List (ProxyIdentity × ProbePhase)} {i : Nat} {id : ProxyIdentity} {ph : ProbePhase}

theorem map_fst_set_phase (hi : l[i]? = some (id, ph)) (ph' : ProbePhase) :
    (l.set i (id, ph')).map (·.1) = l.map (·.1) := by
  apply List.ext_getElem?
  intro j
  by_cases hij : i = j
  · subst hij
    obtain ⟨hlt, heq⟩ := List.getElem?_eq_some_iff.1 hi
    simp [hlt, heq]
  · simp [hij]

theorem mem_set_phase (hnd : (l.map (·.1.name)).Nodup) (hi : l[i]? = some (id, ph))
    {ph' : ProbePhase} {p : ProxyIdentity × ProbePhase} (hp : p ∈ l.set i (id, ph')) :
    p = (id, ph') ∨ (p ∈ l ∧ p.1.name ≠ id.name) := by
  obtain ⟨j, hj⟩ := List.mem_iff_getElem?.1 hp
  by_cases hij : i = j
  · subst hij
    have hlt := (List.getElem?_eq_some_iff.1 hi).1
    left
    simpa [List.getElem?_set, hlt] using hj.symm
  · rw [List.getElem?_set_ne hij] at hj
    refine .inr ⟨List.mem_of_getElem? hj, fun hname => hij ?_⟩
    -- two positions holding one name are one position
    have hi' : (l.map (·.1.name))[i]? = some id.name := by simp [hi]
    have hj' : (l.map (·.1.name))[j]? = some id.name := by simp [hj, hname]
    exact (List.getElem?_inj (List.getElem?_eq_some_iff.1 hi').1 hnd).1 (hi'.trans hj'.symm)

theorem countP_set_add {α : Type} (p : α → Bool) :
    ∀ (l : List α) (i : Nat) {b : α} (a : α), l[i]? = some b →
      (l.set i a).countP p + (if p b then 1 else 0) = l.countP p + (if p a then 1 else 0)
  | [], _, _, _, h => by simp at h
  | x :: xs, 0, b, a, h => by
    obtain rfl : x = b := by simpa using h
    simp only [List.set_cons_zero, List.countP_cons]
    omega
  | x :: xs, i + 1, b, a, h => by
    have ih := countP_set_add p xs i a (by simpa using h)
    simp only [List.set_cons_succ, List.countP_cons]
    omega

end Probes

/-! ### What a tick takes out -/

theorem filterMap_find_roster {roster : List (String × ProxyIdentity)}
    (hr : ∀ p ∈ roster, p.2.name = p.1) :
    ∀ taken : List String, (∀ n ∈ taken, n ∈ roster.map Prod.fst) →
      (taken.filterMap fun n => (roster.find? (·.1 == n)).map (·.2)).map (·.name) = taken ∧
        ∀ id ∈ taken.filterMap (fun n => (roster.find? (·.1 == n)).map (·.2)),
          (id.name, id) ∈ roster
  | [], _ => ⟨rfl, by simp⟩
  | n :: taken, h => by
    obtain ⟨hmap, hmem⟩ :=
      filterMap_find_roster hr taken fun m hm => h m (List.mem_cons_of_mem n hm)
    -- the name is on the roster, so the proxy found under it carries it
    obtain ⟨p, hp⟩ : ∃ p, roster.find? (·.1 == n) = some p := by
      rw [← Option.isSome_iff_exists, List.find?_isSome]
      simpa using h n List.mem_cons_self
    have hpn : p.1 = n := by simpa using List.find?_some hp
    have hpr : p ∈ roster := List.mem_of_find?_eq_some hp
    have hname : p.2.name = p.1 := hr p hpr
    refine ⟨?_, fun id hid => ?_⟩
    · simp [hp, hmap, hname, hpn]
    · rw [List.filterMap_cons, hp] at hid
      rcases List.mem_cons.1 hid with rfl | hid
      · rw [hname]
        exact hpr
      · exact hmem id hid

theorem Schedule.WF.popDue_taken {s : Schedule} (hs : s.WF) (now : Instant) :
    ((s.popDue now).1.map (·.name)).Nodup ∧
      (∀ n, n ∈ (s.popDue now).1.map (·.name) ↔ ∃ d, s.dueOf? n = some d ∧ d ≤ now) ∧
      ∀ id ∈ (s.popDue now).1, (id.name, id) ∈ s.roster := by
  obtain ⟨taken, hnd, hmem, hids, -⟩ := hs.popDue_spec now
  -- every name taken out was scheduled, so it is on the roster
  have hon : ∀ n ∈ taken, n ∈ s.roster.map Prod.fst := by
    intro n hn
    obtain ⟨d, hd, -⟩ := (hmem n).1 hn
    have hsome : s.dueOf? n ≠ none := by simp [hd]
    exact hs.on_roster n (by simpa [Schedule.dueOf?_eq_none_iff] using hsome)
  obtain ⟨hmap, hroster⟩ := filterMap_find_roster hs.roster_name taken hon
  rw [hids, hmap]
  exact ⟨hnd, hmem, hroster⟩

/-! ### What every step keeps -/

namespace TickRun

variable (s₀ : Schedule) (t₀ : Tracker) (now : Instant) (limit : Nat)

/-- What holds of a probe of the tick begun on `s₀` with the histories `t₀`: its proxy is off
the schedule until the probe ends, and then back one interval of the grade it read after the
clock then, that grade being its history's after its sample; its proxy's history is the one
its sample made; and the sample went to the observers. -/
structure ProbeOk (r : TickRun) (p : ProxyIdentity × ProbePhase) : Prop where
  out : p.2.ended = false → r.schedule.dueOf? p.1.name = none
  back : ∀ time grade taken, p.2 = .requeued time grade taken →
    r.schedule.dueOf? p.1.name = some (time.add (s₀.config.interval grade)) ∧
      grade = (t₀.afterProbe p.1.name taken).classify p.1.name
  history : r.tracker.history? p.1.name = (t₀.afterProbe p.1.name p.2.taken?).history? p.1.name
  results : ∀ tx ∈ p.2.taken?, (p.1.name, tx.2) ∈ r.results

/-- What every step keeps of the tick begun at `now` on `s₀` with the histories `t₀`, under a
limiter of `limit` places. -/
structure Keeps (r : TickRun) : Prop where
  ids : r.probes.map (·.1) = (s₀.popDue now).1
  consistent : r.schedule.Consistent
  roster : r.schedule.roster = s₀.roster
  config : r.schedule.config = s₀.config
  trackerConfig : r.tracker.config = t₀.config
  running : r.running ≤ limit
  untouched : ∀ n, n ∉ r.probes.map (·.1.name) →
    r.schedule.dueOf? n = (s₀.popDue now).2.dueOf? n
  probe : ∀ p ∈ r.probes, ProbeOk s₀ t₀ r p

variable {s₀ t₀ now limit} {r r' : TickRun} {i : Nat} {id : ProxyIdentity} {ph : ProbePhase}

theorem ProbeOk.frame {p : ProxyIdentity × ProbePhase} (h : ProbeOk s₀ t₀ r p)
    (hdue : r'.schedule.dueOf? p.1.name = r.schedule.dueOf? p.1.name)
    (hhist : r'.tracker.history? p.1.name = r.tracker.history? p.1.name)
    (hres : r.results ⊆ r'.results) : ProbeOk s₀ t₀ r' p where
  out hend := hdue.trans (h.out hend)
  back time grade taken hph := by
    rw [hdue]
    exact h.back time grade taken hph
  history := hhist.trans h.history
  results tx htx := hres (h.results tx htx)

theorem Keeps.names (h : Keeps s₀ t₀ now limit r) :
    r.probes.map (·.1.name) = (s₀.popDue now).1.map (·.name) := by
  rw [← h.ids, List.map_map]
  rfl

theorem Keeps.mem_roster (hs : s₀.WF) (h : Keeps s₀ t₀ now limit r)
    (hi : r.probes[i]? = some (id, ph)) :
    id.name ∈ r.schedule.roster.map Prod.fst := by
  have hid : id ∈ (s₀.popDue now).1 := by
    rw [← h.ids]
    exact List.mem_map.2 ⟨_, List.mem_of_getElem? hi, rfl⟩
  rw [h.roster]
  exact List.mem_map.2 ⟨_, (hs.popDue_taken now).2.2 id hid, rfl⟩

theorem running_set (hi : r.probes[i]? = some (id, ph)) {ph' : ProbePhase}
    (hprobes : r'.probes = r.probes.set i (id, ph')) :
    r'.running + (if ph.running then 1 else 0) = r.running + (if ph'.running then 1 else 0) := by
  unfold TickRun.running
  rw [hprobes]
  exact countP_set_add _ r.probes i (id, ph') hi

theorem Keeps.of_set (hs : s₀.WF) (h : Keeps s₀ t₀ now limit r)
    (hi : r.probes[i]? = some (id, ph)) {ph' : ProbePhase} (hprobes : r'.probes = r.probes.set i (id, ph'))
    (hcons : r'.schedule.Consistent) (hroster : r'.schedule.roster = r.schedule.roster)
    (hconfig : r'.schedule.config = r.schedule.config)
    (htconfig : r'.tracker.config = r.tracker.config)
    (hlimit : ph'.running = true → ph.running = true ∨ r.running < limit)
    (hother : ∀ n, n ≠ id.name →
      r'.schedule.dueOf? n = r.schedule.dueOf? n ∧ r'.tracker.history? n = r.tracker.history? n)
    (hres : r.results ⊆ r'.results) (hnew : ProbeOk s₀ t₀ r' (id, ph')) :
    Keeps s₀ t₀ now limit r' := by
  have hnd : (r.probes.map (·.1.name)).Nodup := h.names ▸ (hs.popDue_taken now).1
  have hids : r'.probes.map (·.1) = r.probes.map (·.1) := by
    rw [hprobes]
    exact map_fst_set_phase hi ph'
  have hnames : r'.probes.map (·.1.name) = r.probes.map (·.1.name) := by
    rw [show (fun x : ProxyIdentity × ProbePhase => x.1.name) = (·.name) ∘ (·.1) from rfl,
      ← List.map_map, ← List.map_map, hids]
  refine ⟨hids.trans h.ids, hcons, hroster.trans h.roster, hconfig.trans h.config,
    htconfig.trans h.trackerConfig, ?_, fun n hn => ?_, fun p hp => ?_⟩
  · -- a probe takes a place only where it held one or one was free
    have hcount := running_set hi hprobes
    have hle := h.running
    cases h1 : ph'.running <;> cases h2 : ph.running <;> simp only [h1, h2] at hcount hlimit <;>
      simp at hlimit hcount <;> omega
  · -- a name no probe carries is not the changed probe's
    rw [hnames] at hn
    have hne : n ≠ id.name := by
      rintro rfl
      exact hn (List.mem_map.2 ⟨_, List.mem_of_getElem? hi, rfl⟩)
    rw [(hother n hne).1]
    exact h.untouched n hn
  · rw [hprobes] at hp
    rcases mem_set_phase hnd hi hp with rfl | ⟨hp, hne⟩
    · exact hnew
    · exact (h.probe p hp).frame (hother _ hne).1 (hother _ hne).2 hres

theorem Keeps.begin (hs : s₀.WF) : Keeps s₀ t₀ now limit (begin s₀ t₀ now) := by
  obtain ⟨hc, hr, -, -⟩ := hs.toConsistent.popDue now
  obtain ⟨-, hmem, -⟩ := hs.popDue_taken now
  obtain ⟨taken, -, -, -, hrest⟩ := hs.popDue_spec now
  refine ⟨by simp [TickRun.begin, List.map_map, Function.comp_def], hc, hr,
    Schedule.config_popDue s₀ now, rfl, ?_,
    fun n _ => rfl, fun p hp => ?_⟩
  · -- no probe has started
    simp [TickRun.running, TickRun.begin, ProbePhase.running, List.countP_map, Function.comp_def]
  · obtain ⟨id, hid, rfl⟩ := List.mem_map.1 hp
    refine ⟨fun _ => ?_, fun time grade taken hph => (by cases hph), rfl,
      fun tx htx => (by cases htx)⟩
    -- the proxy's check was due by `now`, so the tick took it out
    obtain ⟨d, hd, hle⟩ := (hmem id.name).1 (List.mem_map_of_mem hid)
    have hnl : ¬ now < d := Int.not_lt.2 hle
    simp [TickRun.begin, hrest, hd, hnl, Option.filter]

theorem Keeps.start (hs : s₀.WF) (h : Keeps s₀ t₀ now limit r)
    (hi : r.probes[i]? = some (id, .waiting)) (hlt : r.running < limit) :
    Keeps s₀ t₀ now limit { r with probes := r.probes.set i (id, .probing) } := by
  have hold := h.probe _ (List.mem_of_getElem? hi)
  exact h.of_set hs hi rfl h.consistent rfl rfl rfl (fun _ => .inr hlt) (fun _ _ => ⟨rfl, rfl⟩)
    (List.Subset.refl _) ⟨fun _ => hold.out rfl, fun _ _ _ hph => (by cases hph), hold.history,
      fun _ htx => (by cases htx)⟩

theorem Keeps.record (hs : s₀.WF) (h : Keeps s₀ t₀ now limit r)
    (hi : r.probes[i]? = some (id, .probing)) (time : Instant) (sample : HealthSample) :
    Keeps s₀ t₀ now limit { r with tracker := (r.tracker.record time id.name sample).2,
                                    probes := r.probes.set i (id, .recorded time sample),
                                    results := r.results ++ [(id.name, sample)] } := by
  have hold := h.probe _ (List.mem_of_getElem? hi)
  refine h.of_set hs hi rfl h.consistent rfl rfl (Tracker.config_record _ _ _ _)
    (fun _ => .inl rfl) (fun n hn => ⟨rfl, Tracker.history?_record_of_ne _ _ _ hn⟩)
    (List.subset_append_left _ _)
    ⟨fun _ => hold.out rfl, fun _ _ _ hph => (by cases hph), ?_, fun tx htx => ?_⟩
  · -- the proxy's history is the one its sample makes
    exact Tracker.history?_record_congr hold.history h.trackerConfig time sample
  · cases htx
    exact List.mem_append_right _ (List.mem_singleton_self _)

theorem Keeps.requeue (hs : s₀.WF) (h : Keeps s₀ t₀ now limit r)
    (hi : r.probes[i]? = some (id, ph)) (clock : Instant) :
    Keeps s₀ t₀ now limit (r.requeue i id clock ph.taken?) := by
  have hold := h.probe _ (List.mem_of_getElem? hi)
  have hros := h.mem_roster hs hi
  refine h.of_set hs hi rfl (h.consistent.reschedule _ _ _) (Schedule.roster_reschedule _ _ _ _)
    (Schedule.config_reschedule _ _ _ _) rfl (fun hrun => Bool.noConfusion hrun)
    (fun n hn => ⟨?_, rfl⟩) (List.Subset.refl _)
    ⟨fun hend => Bool.noConfusion hend, fun time grade taken hback => ?_, hold.history,
      hold.results⟩
  · -- another proxy's check stays where it was
    simp only [TickRun.requeue]
    rw [h.consistent.dueOf?_reschedule, if_neg (fun hc => hn hc.1)]
  · -- the proxy is back, one interval of the grade its history gives after the clock
    cases hback
    refine ⟨?_, Tracker.classify_congr hold.history⟩
    simp only [TickRun.requeue]
    rw [h.consistent.dueOf?_reschedule, if_pos ⟨rfl, hros⟩, h.config]

theorem Keeps.step (hs : s₀.WF) (h : Keeps s₀ t₀ now limit r) (hstep : Step limit r r') :
    Keeps s₀ t₀ now limit r' := by
  cases hstep with
  | start i id hi _ hlt => exact h.start hs hi hlt
  | record i id time sample hi => exact h.record hs hi time sample
  | requeue i id time clock sample hi => exact h.requeue hs hi clock
  | panic i id clock hi => exact h.requeue hs hi clock

theorem Keeps.run (hs : s₀.WF)
    (hrun : Relation.ReflTransGen (Step limit) (TickRun.begin s₀ t₀ now) r) :
    Keeps s₀ t₀ now limit r := by
  induction hrun with
  | refl => exact .begin hs
  | tail _ hstep ih => exact ih.step hs hstep

end TickRun

/-! ### The checker's tick is one of these runs

The checker probes the proxies it took out one after the other, recording each sample, and puts
them back on the schedule once all have ended. With a place for each of them that is a run of
the tick: each probe starts and records in turn, and then each goes back in turn. -/

namespace Checker

variable {σ : Type} (eng : ProbeEngine σ)

theorem probeEach_cons (c : Checker) (s : σ) (id : ProxyIdentity) (ids : List ProxyIdentity)
    {sample : HealthSample} {s₁ : σ}
    (hp : Health.probe c.probe eng s id false = (sample, s₁)) :
    c.probeEach eng s true (id :: ids) =
      ((id.name, sample) ::
          ((c.recordSample (eng.clock s₁) id.name sample).probeEach eng s₁ true ids).1,
        ((c.recordSample (eng.clock s₁) id.name sample).probeEach eng s₁ true ids).2) := by
  simp [probeEach, hp]

theorem probeEach_checker :
    ∀ (ids : List ProxyIdentity) (c : Checker) (s : σ),
      (c.probeEach eng s true ids).2.1 =
        { c with tracker := (c.probeEach eng s true ids).2.1.tracker }
  | [], c, s => rfl
  | id :: ids, c, s => by
    rcases hp : Health.probe c.probe eng s id false with ⟨sample, s₁⟩
    rw [probeEach_cons eng c s id ids hp]
    exact probeEach_checker ids _ s₁

end Checker

namespace TickRun

variable {σ : Type} (eng : ProbeEngine σ) {limit : Nat}

theorem running_le_of_waiting {r : TickRun} {pre : List (ProxyIdentity × ProbePhase)}
    {ids : List ProxyIdentity} (hr : r.probes = pre ++ ids.map (·, .waiting)) :
    r.running ≤ pre.length := by
  have hle : pre.countP (·.2.running) ≤ pre.length := List.countP_le_length
  have hcount : r.running = pre.countP (·.2.running) := by
    simp [TickRun.running, hr, List.countP_append, ProbePhase.running]
  omega

theorem probeEach_run :
    ∀ (ids : List ProxyIdentity) (c : Checker) (s : σ) (pre : List (ProxyIdentity × ProbePhase))
      (r : TickRun), r.probes = pre ++ ids.map (·, .waiting) →
      (∀ p ∈ pre, p.2.started = true) →
      pre.length + ids.length ≤ limit → r.tracker = c.tracker →
      ∃ r' L, Relation.ReflTransGen (Step limit) r r' ∧ r'.probes = pre ++ L ∧
        (∀ p ∈ L, ∃ time x, p.2 = .recorded time x) ∧
        L.map (·.1.name) = (c.probeEach eng s true ids).1.map (·.1) ∧
        r'.schedule = r.schedule ∧ r'.tracker = (c.probeEach eng s true ids).2.1.tracker ∧
        r'.results = r.results ++ (c.probeEach eng s true ids).1
  | [], c, s, pre, r, hr, _, _, ht =>
    ⟨r, [], .refl, by simpa using hr, by simp, rfl, rfl, ht, by simp [Checker.probeEach]⟩
  | id :: ids, c, s, pre, r, hr, hpre, hlen, ht => by
    rcases hp : Health.probe c.probe eng s id false with ⟨sample, s₁⟩
    rw [Checker.probeEach_cons eng c s id ids hp]
    -- the probe at the end of `pre` waits, and a place is free since the ones before hold at most
    -- one each
    have hi : r.probes[pre.length]? = some (id, .waiting) := by simp [hr]
    have htake : ∀ p ∈ r.probes.take pre.length, p.2.started = true := by simpa [hr] using hpre
    have hfree : r.running < limit := by
      have := running_le_of_waiting hr
      simp only [List.length_cons] at hlen
      omega
    let q : ProxyIdentity × ProbePhase := (id, .recorded (eng.clock s₁) sample)
    let r₁ : TickRun := { r with probes := r.probes.set pre.length (id, .probing) }
    let r₂ : TickRun :=
      { r₁ with tracker := (r₁.tracker.record (eng.clock s₁) id.name sample).2,
                probes := r₁.probes.set pre.length q,
                results := r₁.results ++ [(id.name, sample)] }
    have hstart : Step limit r r₁ := Step.start r pre.length id hi htake hfree
    have hrecord : Step limit r₁ r₂ :=
      Step.record r₁ pre.length id (eng.clock s₁) sample (by simp [r₁, hr])
    obtain ⟨r', L, hrun, hprobes, hL, hnames, hsched, htr, hres⟩ :=
      probeEach_run ids (c.recordSample (eng.clock s₁) id.name sample) s₁ (pre ++ [q]) r₂
        (by simp [r₂, r₁, hr, q])
        (fun p hp => (List.mem_append.1 hp).elim (hpre p) fun hq => by
          rw [List.mem_singleton.1 hq]
          rfl)
        (by simp only [List.length_cons] at hlen; simp; omega)
        (by simp [r₂, r₁, ht, Checker.recordSample])
    refine ⟨r', q :: L, .head hstart (.head hrecord hrun), by simpa using hprobes, ?_,
      by simp [hnames, q], hsched, htr, by simp [hres, r₂, r₁]⟩
    intro p hp
    rcases List.mem_cons.1 hp with rfl | hp
    · exact ⟨_, _, rfl⟩
    · exact hL p hp

theorem requeue_all (clock : Instant) :
    ∀ (L pre : List (ProxyIdentity × ProbePhase)) (r : TickRun), r.probes = pre ++ L →
      (∀ p ∈ L, ∃ time x, p.2 = .recorded time x) →
      ∃ r', Relation.ReflTransGen (Step limit) r r' ∧
        r'.schedule =
          L.foldl (fun sc p => sc.reschedule clock (r.tracker.classify p.1.name) p.1.name)
            r.schedule ∧
        r'.tracker = r.tracker ∧ r'.results = r.results ∧
        ∀ p ∈ r'.probes, p ∈ pre ∨ p.2.ended = true
  | [], pre, r, hr, _ => ⟨r, .refl, rfl, rfl, rfl, fun p hp => .inl (by simpa [hr] using hp)⟩
  | p :: L, pre, r, hr, hL => by
    obtain ⟨time, x, hph⟩ := hL p List.mem_cons_self
    obtain ⟨id, ph⟩ := p
    dsimp only at hph
    subst hph
    have hi : r.probes[pre.length]? = some (id, .recorded time x) := by simp [hr]
    let q : ProxyIdentity × ProbePhase :=
      (id, .requeued clock (r.tracker.classify id.name) (some (time, x)))
    obtain ⟨r', hrun, hsched, htr, hres, hend⟩ :=
      requeue_all clock L (pre ++ [q]) (r.requeue pre.length id clock (some (time, x)))
        (by simp [TickRun.requeue, hr, q]) (fun p hp => hL p (List.mem_cons_of_mem _ hp))
    refine ⟨r', .head (Step.requeue r pre.length id time clock x hi) hrun, hsched, htr, hres,
      fun p hp => ?_⟩
    rcases hend p hp with hp | hp
    · rcases List.mem_append.1 hp with hp | hp
      · exact .inl hp
      · rw [List.mem_singleton.1 hp]
        exact .inr rfl
    · exact .inr hp

end TickRun

/-- The checker's tick is a run of the tick under a limiter with a place for each proxy it takes
out, at whose end every probe has ended: it hands the run's samples to the observers and keeps
the histories and the schedule the run leaves. -/
theorem Checker.tick_run {σ : Type} (eng : ProbeEngine σ) (c : Checker) (s : σ)
    {sched : Schedule} (hc : c.schedule = some sched) {limit : Nat}
    (hlimit : (sched.popDue (eng.clock s)).1.length ≤ limit) :
    ∃ r, Relation.ReflTransGen (TickRun.Step limit)
        (TickRun.begin sched c.tracker (eng.clock s)) r ∧
      r.ended = true ∧ (c.tick eng s).1 = r.results ∧
      (c.tick eng s).2.1 = { c with tracker := r.tracker, schedule := some r.schedule } := by
  rcases hpop : sched.popDue (eng.clock s) with ⟨due, sched'⟩
  rcases hout : ({ c with schedule := some sched' } : Checker).probeEach eng s true due with
    ⟨samples, c₁, s₁⟩
  have hbegin : TickRun.begin sched c.tracker (eng.clock s) =
      { schedule := sched', tracker := c.tracker, probes := due.map (·, .waiting) } := by
    simp [TickRun.begin, hpop]
  -- every probe starts and records in turn, and then every proxy goes back in turn
  obtain ⟨r₁, L, hrun₁, hprobes, hL, hnames, hsched, htr, hres⟩ :=
    TickRun.probeEach_run eng due { c with schedule := some sched' } s []
      (TickRun.begin sched c.tracker (eng.clock s)) (by simp [hbegin]) (by simp)
      (by simpa [hpop] using hlimit) (by simp [hbegin])
  rw [hout] at hnames htr hres
  obtain ⟨r₂, hrun₂, hsched₂, htr₂, hres₂, hend⟩ :=
    @TickRun.requeue_all limit (eng.clock s₁) L [] r₁ (by simpa using hprobes) hL
  have hc₁ : c₁ = { c with tracker := c₁.tracker, schedule := some sched' } := by
    have := Checker.probeEach_checker eng due { c with schedule := some sched' } s
    rw [hout] at this
    exact this
  refine ⟨r₂, hrun₁.trans hrun₂, ?_, ?_, ?_⟩
  · unfold TickRun.ended
    exact List.all_eq_true.2 fun p hp => (hend p hp).resolve_left List.not_mem_nil
  · simp [Checker.tick, hc, hpop, hout, hres₂, hres, hbegin]
  · -- the checker reschedules by the names of its samples, which are the probes' names
    have hfold := congrArg (fun l => l.foldl (fun sc n =>
      sc.reschedule (eng.clock s₁) (r₁.tracker.classify n) n) sched') hnames
    simp only [List.foldl_map] at hfold
    simp only [Checker.tick, hc, hpop, hout]
    have htr₁ : c₁.tracker = r₁.tracker := htr.symm
    rw [hc₁]
    simp [hsched₂, hsched, hbegin, htr₂, htr₁, hfold]

/-- What a tick begun at `now` on the schedule `s` with the histories `t₀` has done by the state
`r`, under a limiter of `limit` places. -/
structure TickLaw (s : Schedule) (t₀ : Tracker) (now : Instant) (limit : Nat) (r : TickRun) :
    Prop where
  taken : ∀ n, n ∈ r.probes.map (·.1.name) ↔ ∃ d, s.dueOf? n = some d ∧ d ≤ now
  once : (r.probes.map (·.1.name)).Nodup
  roster : ∀ p ∈ r.probes, (p.1.name, p.1) ∈ s.roster
  running : r.running ≤ limit
  kept : ∀ n, n ∉ r.probes.map (·.1.name) → r.schedule.dueOf? n = s.dueOf? n
  out : ∀ p ∈ r.probes, p.2.ended = false → r.schedule.dueOf? p.1.name = none
  back : ∀ p ∈ r.probes, ∀ time grade taken, p.2 = .requeued time grade taken →
    r.schedule.dueOf? p.1.name = some (time.add (s.config.interval grade)) ∧
      grade = (t₀.afterProbe p.1.name taken).classify p.1.name ∧
      ∀ tx ∈ taken, (p.1.name, tx.2) ∈ r.results
  wait : ∀ clock, r.schedule.WaitLaw clock

def onlyA : Schedule :=
  ({ config := default } : Schedule).sync Instant.zero (fun _ => .unknown) [{ name := "a" }]

def checkedTwice : Tracker :=
  let x (time : Instant) : HealthSample := { timestamp := time, success := true, overallScore := 1 }
  let once := (({} : Tracker).record ⟨10000000000⟩ "a" (x ⟨10000000000⟩)).2
  (once.record ⟨30000000000⟩ "a" (x ⟨30000000000⟩)).2

end ProxyRouter.Health
