import ProxyRouter.Proofs.StickySessions
/-!
# The recent hosts

The dispatcher lists the hosts of the targets that needed a proxy. A listed host is not listed
again and keeps its place; any other host is appended, the oldest one leaving first when twenty
are listed. Over every run of dispatches, interleaved with any change of the rules, of the
selector and of the session settings, the list is the fold of that step over the hosts of the
dispatches that needed a proxy, failed ones included. Hence it lists no host twice, never more
than twenty, in the order they were recorded, and only hosts of such dispatches.
-/
namespace ProxyRouter.Selection

open Pool Routing

/-- Record a host in a list of recent hosts: a listed host stays where it is; otherwise, when
twenty are listed the oldest leaves, and the host is appended. -/
def recentStep (recent : List String) (host : String) : List String :=
  if host ∈ recent then recent
  else (if recent.length = 20 then recent.tail else recent) ++ [host]

section Step

variable {recent : List String} {host : String}

theorem recentStep_of_mem (h : host ∈ recent) : recentStep recent host = recent := if_pos h

theorem recentStep_of_not_mem (h : host ∉ recent) :
    recentStep recent host = (if recent.length = 20 then recent.tail else recent) ++ [host] :=
  if_neg h

theorem kept_sublist (recent : List String) :
    List.Sublist (if recent.length = 20 then recent.tail else recent) recent := by
  split
  · exact List.tail_sublist recent
  · exact List.Sublist.refl recent

theorem recentStep_nodup (hnd : recent.Nodup) : (recentStep recent host).Nodup := by
  by_cases hm : host ∈ recent
  · rwa [recentStep_of_mem hm]
  · rw [recentStep_of_not_mem hm, List.nodup_append]
    have hkept := kept_sublist recent
    refine ⟨hkept.nodup hnd, List.nodup_cons.2 ⟨List.not_mem_nil, List.nodup_nil⟩, ?_⟩
    intro a ha b hb
    rw [List.mem_singleton] at hb
    rintro rfl
    exact hm (hb ▸ hkept.subset ha)

theorem recentStep_length_le (hlen : recent.length ≤ 20) : (recentStep recent host).length ≤ 20 := by
  by_cases hm : host ∈ recent
  · rwa [recentStep_of_mem hm]
  · rw [recentStep_of_not_mem hm, List.length_append, List.length_singleton]
    split
    · rw [List.length_tail]
      omega
    · omega

theorem recentStep_sublist {seen : List String} (hsub : List.Sublist recent seen) :
    List.Sublist (recentStep recent host) (seen ++ [host]) := by
  by_cases hm : host ∈ recent
  · rw [recentStep_of_mem hm]
    exact hsub.trans (List.sublist_append_left seen [host])
  · rw [recentStep_of_not_mem hm]
    exact ((kept_sublist recent).trans hsub).append (List.Sublist.refl [host])

end Step

theorem Router.recent_recordTarget_eq (r : Router) (host : String) :
    (r.recordTarget host).recent =
      if r.recent.contains host then r.recent
      else (if r.recent.length ≥ Router.recentLimit then r.recent.drop 1 else r.recent) ++ [host] := by
  unfold Router.recordTarget
  split <;> rfl

theorem Router.recent_recordTarget (r : Router) (host : String) (hlen : r.recent.length ≤ 20) :
    (r.recordTarget host).recent = recentStep r.recent host := by
  unfold Router.recordTarget recentStep
  by_cases hm : host ∈ r.recent
  · simp [hm]
  · -- the code drops the oldest at twenty or more, and no list is longer
    have hfull : (r.recent.length ≥ Router.recentLimit) = (r.recent.length = 20) := by
      simp only [Router.recentLimit, eq_iff_iff]
      omega
    simp only [List.contains_iff_mem, hm, if_false, hfull, List.drop_one]

theorem Router.recent_dispatch (r : Router) (now : Instant) (draw : Draw) (target : Target)
    (strategy : String) :
    (r.dispatch now draw target strategy).2.2.recent =
      if (r.matcher.route target).1 then (r.recordTarget target.host).recent else r.recent := by
  rcases hroute : r.matcher.route target with ⟨u, seen, m'⟩
  cases u with
  | false => simp [dispatch, hroute]
  | true =>
    -- the host is recorded on the router with the matcher the routing left
    have hrec : ({ r with matcher := m' }.recordTarget target.host).recent =
        (r.recordTarget target.host).recent := by
      simp only [Router.recent_recordTarget_eq]
    simp only [dispatch, hroute, Bool.not_true, Bool.false_eq_true, if_false, if_true]
    rw [← hrec]
    -- every later update touches the sessions or the selector only
    split
    · rfl
    · split
      · rfl
      · dsimp only
        split <;> rfl

/-- The runs of a dispatcher from a new one, with the hosts of its dispatches that needed a
proxy, in order: dispatches at any time with any draw, target and strategy, and between them
changes of the rules, of the roster, of the health, of the selector's and of the sessions'
settings, and sweeps of the expired sessions. -/
inductive Traffic : Router → List String → Prop where
  | start (r : Router) : r.recent = [] → Traffic r []
  | dispatch {r : Router} {hosts : List String} (now : Instant) (draw : Draw) (target : Target)
      (strategy : String) : Traffic r hosts →
      Traffic (r.dispatch now draw target strategy).2.2
        (hosts ++ if (r.matcher.route target).1 then [target.host] else [])
  | rules {r : Router} {hosts : List String} (op : MatcherOp) :
      Traffic r hosts → Traffic { r with matcher := op.apply r.matcher } hosts
  | setRoster {r : Router} {hosts : List String} (now : Instant) (ids : List ProxyIdentity) :
      Traffic r hosts → Traffic { r with selector := r.selector.setRoster now ids } hosts
  | updateHealth {r : Router} {hosts : List String} (now : Instant)
      (results : List (String × HealthSample)) :
      Traffic r hosts → Traffic { r with selector := r.selector.updateHealth now results } hosts
  | observe {r : Router} {hosts : List String} (name : String) (sample : HealthSample) :
      Traffic r hosts → Traffic { r with selector := r.selector.merge name sample } hosts
  | configure {r : Router} {hosts : List String} {s : Selector} (module : String)
      (payload : Settings.Payload) : Traffic r hosts → r.selector.onSettings module payload = .ok s →
      Traffic { r with selector := s } hosts
  | sessions {r r' : Router} {hosts : List String} (module : String) (payload : Settings.Payload) :
      Traffic r hosts → r.onSettings module payload = .ok r' → Traffic r' hosts
  | sweep {r : Router} {hosts : List String} (now : Instant) :
      Traffic r hosts → Traffic { r with sticky := r.sticky.cleanup now } hosts

theorem foldl_recentStep :
    ∀ (hosts recent seen : List String), recent.Nodup → recent.length ≤ 20 →
      List.Sublist recent seen →
      (hosts.foldl recentStep recent).Nodup ∧ (hosts.foldl recentStep recent).length ≤ 20 ∧
        List.Sublist (hosts.foldl recentStep recent) (seen ++ hosts)
  | [], _, seen, hnd, hlen, hsub => ⟨hnd, hlen, by simpa using hsub⟩
  | h :: hosts, recent, seen, hnd, hlen, hsub => by
    have ih := foldl_recentStep hosts (recentStep recent h) (seen ++ [h])
      (recentStep_nodup hnd) (recentStep_length_le hlen) (recentStep_sublist hsub)
    simpa using ih

theorem Router.recent_onSettings {r r' : Router} {module : String} {payload : Settings.Payload}
    (h : r.onSettings module payload = .ok r') : r'.recent = r.recent := by
  unfold Router.onSettings at h
  split at h
  · cases h; rfl
  · split at h
    · cases h; rfl
    · cases h

theorem Traffic.recent_eq {r : Router} {hosts : List String} (h : Traffic r hosts) :
    r.recent = hosts.foldl recentStep [] := by
  induction h with
  | start r hnil => exact hnil
  | @dispatch r₀ seen now draw target strategy _ ih =>
    rw [Router.recent_dispatch, List.foldl_append]
    split
    · have hlen := (foldl_recentStep seen [] [] List.nodup_nil (Nat.zero_le _) (.refl [])).2.1
      rw [Router.recent_recordTarget _ _ (ih ▸ hlen), ih]
      rfl
    · simpa using ih
  | rules _ _ ih => exact ih
  | setRoster _ _ _ ih => exact ih
  | updateHealth _ _ _ ih => exact ih
  | observe _ _ _ ih => exact ih
  | configure _ _ _ _ ih => exact ih
  | sessions _ _ _ hset ih => exact (Router.recent_onSettings hset).trans ih
  | sweep _ _ ih => exact ih

/-- Along every run, the recent hosts are the fold of the step over the hosts of the dispatches
that needed a proxy; so they hold no host twice and at most twenty, in the order recorded, and
only such hosts. -/
theorem recent_hosts_fold {r : Router} {hosts : List String} (h : Traffic r hosts) :
    r.recent = hosts.foldl recentStep [] ∧ r.recent.Nodup ∧ r.recent.length ≤ 20 ∧
      List.Sublist r.recent hosts := by
  rw [h.recent_eq]
  exact ⟨rfl, foldl_recentStep hosts [] [] List.nodup_nil (Nat.zero_le _) (.refl [])⟩

/-- Two dispatches to `a.io`, which a domain rule sends through a proxy: the host is recorded
twice and listed once. -/
theorem recent_hosts_fold_repeat :
    Traffic ⟨(MatcherOp.addRule "a.io").apply (Matcher.new 0),
      Selector.new ⟨Strategy.roundRobin, 0.5, false⟩, "", StickyManager.new none, []⟩ [] ∧
    let r : Router := ⟨(MatcherOp.addRule "a.io").apply (Matcher.new 0),
      Selector.new ⟨Strategy.roundRobin, 0.5, false⟩, "", StickyManager.new none, []⟩
    let r' := ((r.dispatch Instant.zero {} "a.io" "").2.2.dispatch Instant.zero {} "a.io" "").2.2
    Traffic r' ["a.io", "a.io"] ∧ r'.recent = ["a.io"] ∧
      (r'.recent = ["a.io", "a.io"].foldl recentStep [] ∧ r'.recent.Nodup ∧
        r'.recent.length ≤ 20 ∧ List.Sublist r'.recent ["a.io", "a.io"]) := by
  have h₀ : Traffic ⟨(MatcherOp.addRule "a.io").apply (Matcher.new 0),
      Selector.new ⟨Strategy.roundRobin, 0.5, false⟩, "", StickyManager.new none, []⟩ [] :=
    .start _ rfl
  refine ⟨h₀, ?_⟩
  intro r r'
  have h₂ : Traffic r' ["a.io", "a.io"] := by
    convert (h₀.dispatch Instant.zero {} "a.io" "").dispatch Instant.zero {} "a.io" "" using 1
    decide +kernel
  have hfold := recent_hosts_fold h₂
  exact ⟨h₂, hfold.1.trans (by decide), hfold⟩

end ProxyRouter.Selection
