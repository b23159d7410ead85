import ProxyRouter.Selection.Dispatcher
import ProxyRouter.Proofs.RouteCache
/-!
The sticky-session law. Over a run of dispatches interleaved with changes of the roster, of the
health, of the selector's settings and of the rules, with time moving forward and expired
sessions swept now and then, under fixed session settings: a target the rules send direct goes
direct and touches nothing else; when sessions apply to a target's host, the answer keeps proxy
`p` exactly when the latest dispatch for that host that reached the session stage gave `p` at
most a lifetime ago and `p` is still healthy in the roster; otherwise the selector chooses, or
there is no candidate and the host is left without a session.
-/
namespace ProxyRouter.Selection

open Pool Routing

theorem Instant.le_of_not_lt {a b : Instant} (h : ¬ a < b) : b ≤ a := by
  show b.nanos ≤ a.nanos
  exact Int.le_of_not_gt h

theorem Instant.not_lt_of_le {a b : Instant} (h : a ≤ b) : ¬ b < a := by
  show ¬ b.nanos < a.nanos
  exact Int.not_lt.mpr h

theorem Instant.lt_of_lt_of_le {a b c : Instant} (h₁ : a < b) (h₂ : b ≤ c) : a < c :=
  Int.lt_of_lt_of_le h₁ h₂

namespace StickyManager

def Keyed (m : StickyManager) : Prop := (m.sessions.map (·.1)).Nodup

section
variable (m : StickyManager) (host h : String) (r : StickyRecord) (now : Instant)

@[simp] theorem put_lifetime : (m.put host r).lifetime = m.lifetime := by
  unfold put; split <;> rfl

@[simp] theorem put_shouldApply : (m.put host r).shouldApply = m.shouldApply := by
  unfold put; split <;> rfl

@[simp] theorem drop_lifetime : (m.drop host).lifetime = m.lifetime := rfl

@[simp] theorem drop_shouldApply : (m.drop host).shouldApply = m.shouldApply := rfl

@[simp] theorem cleanup_lifetime : (m.cleanup now).lifetime = m.lifetime := rfl

@[simp] theorem cleanup_shouldApply : (m.cleanup now).shouldApply = m.shouldApply := rfl

theorem session?_put_self : (m.put host r).session? host = some r := by
  unfold put session?
  split
  · rename_i hany
    obtain ⟨q, hq, hqk⟩ := List.any_eq_true.mp hany
    rw [List.find?_map]
    have hfound : ((fun x : String × StickyRecord => x.1 == host) ∘
        fun p => if p.1 == host then (host, r) else p) = (·.1 == host) := by
      funext p
      by_cases hp : p.1 = host <;> simp [hp]
    rw [hfound]
    cases hf : m.sessions.find? (·.1 == host) with
    | none => exact absurd hq (List.find?_eq_none.mp hf q |> fun h => by simp_all)
    | some p =>
      have hp : p.1 = host := by simpa using List.find?_some hf
      simp [hp]
  · rename_i hany
    have hnone : m.sessions.find? (·.1 == host) = none := by
      apply List.find?_eq_none.mpr
      intro q hq hqk
      exact hany (List.any_eq_true.mpr ⟨q, hq, hqk⟩)
    simp [List.find?_append, hnone]

theorem session?_put_of_ne (hne : h ≠ host) : (m.put host r).session? h = m.session? h := by
  unfold put session?
  split
  · rw [List.find?_map]
    have hsame : ((fun x : String × StickyRecord => x.1 == h) ∘
        fun p => if p.1 == host then (host, r) else p) = (·.1 == h) := by
      funext p
      by_cases hp : p.1 = host
      · simp [hp]
      · simp [hp]
    rw [hsame]
    cases hf : m.sessions.find? (·.1 == h) with
    | none => rfl
    | some p =>
      have hp : p.1 = h := by simpa using List.find?_some hf
      have hph : p.1 ≠ host := by rw [hp]; exact hne
      simp [hph]
  · cases hf : m.sessions.find? (·.1 == h) with
    | none => simp [List.find?_append, hf, Ne.symm hne]
    | some p => simp [List.find?_append, hf]

theorem session?_drop_self : (m.drop host).session? host = none := by
  simp [drop, session?, List.find?_filter]

theorem session?_drop_of_ne (hne : h ≠ host) : (m.drop host).session? h = m.session? h := by
  unfold drop session?
  congr 1
  rw [List.find?_filter]
  congr 1
  funext p
  by_cases hp : p.1 = h
  · simp [hp, hne]
  · simp [hp]

theorem Keyed.put {m : StickyManager} (hk : m.Keyed) (host : String) (r : StickyRecord) :
    (m.put host r).Keyed := by
  unfold Keyed StickyManager.put
  split
  · have hfst : (m.sessions.map fun p => if p.1 == host then (host, r) else p).map (·.1) =
        m.sessions.map (·.1) := by
      rw [List.map_map]
      apply List.map_congr_left
      intro p _
      by_cases hp : p.1 = host <;> simp [hp]
    rw [hfst]
    exact hk
  · rename_i hany
    rw [List.map_append, List.nodup_append]
    refine ⟨hk, by simp, ?_⟩
    intro a ha b hb
    simp only [List.mem_map] at ha
    obtain ⟨q, hq, rfl⟩ := ha
    have hb' : b = host := by simpa using hb
    subst hb'
    intro hqk
    exact hany (List.any_eq_true.mpr ⟨q, hq, by simp [hqk]⟩)

theorem Keyed.filter {m : StickyManager} (hk : m.Keyed) (keep : String × StickyRecord → Bool) :
    (m.sessions.filter keep).map (·.1) |>.Nodup :=
  (List.filter_sublist.map _).nodup hk

theorem Keyed.session?_cleanup {m : StickyManager} (hk : m.Keyed) (now : Instant) (h : String) :
    (m.cleanup now).session? h = (m.session? h).filter fun r => !(r.expiry < now) := by
  unfold cleanup session?
  unfold Keyed at hk
  generalize m.sessions = l at hk ⊢
  induction l with
  | nil => rfl
  | cons q qs ih =>
    simp only [List.map_cons, List.nodup_cons] at hk
    by_cases hq : q.1 = h
    · have hrest : (qs.filter fun p => !(p.2.expiry < now)).find? (·.1 == h) = none := by
        apply List.find?_eq_none.mpr
        intro p hp hpk
        have hpq : p.1 = q.1 := by rw [hq]; simpa using hpk
        exact hk.1 (List.mem_map.mpr ⟨p, (List.mem_filter.mp hp).1, hpq⟩)
      by_cases hx : q.2.expiry < now
      · simp [hx, hq, hrest, Option.filter_some]
      · simp [hx, hq, Option.filter_some]
    · have hne : (q.1 == h) = false := by simp [hq]
      by_cases hx : q.2.expiry < now
      · simpa [List.filter_cons, hx, hne] using ih hk.2
      · simpa [List.filter_cons, hx, hne] using ih hk.2

end

section
variable {m : StickyManager} {now : Instant} {host h : String} {valid : String → Bool}

theorem enabled_of_shouldApply (ha : m.shouldApply host = true) : m.enabled = true := by
  simp only [shouldApply, Bool.and_eq_true] at ha
  exact ha.1

theorem get_record (he : m.enabled = true) :
    (m.get now host valid).1 = (m.session? host).bind fun r =>
      if r.expiry < now ∨ valid r.proxy = false then none
      else some ⟨r.proxy, now.add m.lifetime⟩ := by
  unfold get
  cases hs : m.session? host with
  | none => simp [he]
  | some r =>
    by_cases hx : r.expiry < now
    · simp [he, hx]
    · cases hv : valid r.proxy <;> simp [he, hx, hv]

theorem valid_of_get (he : m.enabled = true) {rec : StickyRecord}
    (hg : (m.get now host valid).1 = some rec) : valid rec.proxy = true := by
  rw [get_record he] at hg
  cases hs : m.session? host with
  | none => simp [hs] at hg
  | some e =>
    by_cases hbad : e.expiry < now ∨ valid e.proxy = false
    · simp [hs, hbad] at hg
    · simp only [hs, hbad, Option.bind_some, if_false, Option.some.injEq] at hg
      rw [← hg]
      simpa using fun hx => hbad (.inr hx)

theorem expiry_of_get (he : m.enabled = true) {rec : StickyRecord}
    (hg : (m.get now host valid).1 = some rec) : rec = ⟨rec.proxy, now.add m.lifetime⟩ := by
  rw [get_record he] at hg
  cases hs : m.session? host with
  | none => simp [hs] at hg
  | some e =>
    by_cases hbad : e.expiry < now ∨ valid e.proxy = false
    · simp [hs, hbad] at hg
    · simp only [hs, hbad, Option.bind_some, if_false, Option.some.injEq] at hg
      rw [← hg]

theorem get_session_self (he : m.enabled = true) :
    (m.get now host valid).2.2.session? host = (m.get now host valid).1 := by
  unfold get
  cases hs : m.session? host with
  | none => simp [he, hs]
  | some r =>
    by_cases hx : r.expiry < now
    · simp [he, hx, session?_drop_self]
    · cases hv : valid r.proxy
      · simp [he, hx, hv, session?_drop_self]
      · simp [he, hx, hv, session?_put_self]

theorem get_session_of_ne (hne : h ≠ host) :
    (m.get now host valid).2.2.session? h = m.session? h := by
  unfold get
  cases hs : m.session? host with
  | none => split <;> rfl
  | some r =>
    by_cases he : m.enabled = true
    · by_cases hx : r.expiry < now
      · simp [he, hx, session?_drop_of_ne _ _ _ hne]
      · cases hv : valid r.proxy
        · simp [he, hx, hv, session?_drop_of_ne _ _ _ hne]
        · simp [he, hx, hv, session?_put_of_ne _ _ _ _ hne]
    · simp [he]

theorem Keyed.get (hk : m.Keyed) : (m.get now host valid).2.2.Keyed := by
  unfold StickyManager.get
  split
  · exact hk
  · split
    · exact hk
    · split
      · exact hk.filter _
      · split
        · exact hk.filter _
        · exact hk.put _ _

@[simp] theorem get_shouldApply : (m.get now host valid).2.2.shouldApply = m.shouldApply := by
  unfold get
  split
  · rfl
  · split
    · rfl
    · split
      · rfl
      · split <;> simp

@[simp] theorem get_lifetime : (m.get now host valid).2.2.lifetime = m.lifetime := by
  unfold get
  split
  · rfl
  · split
    · rfl
    · split
      · rfl
      · split <;> simp

theorem set_session_self (he : m.enabled = true) (p : String) :
    (m.set now host p).session? host = some ⟨p, now.add m.lifetime⟩ := by
  simp [set, he, session?_put_self]

theorem set_session_of_ne (hne : h ≠ host) (p : String) :
    (m.set now host p).session? h = m.session? h := by
  unfold set
  split
  · exact session?_put_of_ne _ _ _ _ hne
  · rfl

theorem Keyed.set (hk : m.Keyed) (p : String) : (m.set now host p).Keyed := by
  unfold StickyManager.set
  split
  · exact hk.put _ _
  · exact hk

@[simp] theorem set_shouldApply (p : String) : (m.set now host p).shouldApply = m.shouldApply := by
  unfold set; split <;> simp

@[simp] theorem set_lifetime (p : String) : (m.set now host p).lifetime = m.lifetime := by
  unfold set; split <;> simp

end

end StickyManager
namespace Router

@[simp] theorem recordTarget_sticky (r : Router) (host : String) :
    (r.recordTarget host).sticky = r.sticky := by
  unfold recordTarget; split <;> rfl

@[simp] theorem recordTarget_selector (r : Router) (host : String) :
    (r.recordTarget host).selector = r.selector := by
  unfold recordTarget; split <;> rfl

@[simp] theorem recordTarget_ingress (r : Router) (host : String) :
    (r.recordTarget host).ingress = r.ingress := by
  unfold recordTarget; split <;> rfl

@[simp] theorem keptProxy_recordTarget (r : Router) (now : Instant) (host h : String) :
    (r.recordTarget h).keptProxy now host = r.keptProxy now host := by
  simp [keptProxy]

@[simp] theorem strategyFor_recordTarget (r : Router) (h strategy : String) :
    (r.recordTarget h).strategyFor strategy = r.strategyFor strategy := by
  simp [strategyFor]

@[simp] theorem keptProxy_withMatcher (r : Router) (m : Matcher) :
    ({ r with matcher := m }).keptProxy = r.keptProxy := rfl

@[simp] theorem strategyFor_withMatcher (r : Router) (m : Matcher) :
    ({ r with matcher := m }).strategyFor = r.strategyFor := rfl

section
variable {r : Router} {now : Instant} {draw : Draw} {target : Target} {strategy : String}

theorem keptProxy_of_not_applies {host : String} (ha : r.sticky.shouldApply host = false) :
    r.keptProxy now host = (none, r.sticky) := by
  simp [keptProxy, ha]

theorem keptProxy_of_applies {host : String} (ha : r.sticky.shouldApply host = true) :
    r.keptProxy now host =
      ((r.sticky.get now host r.selector.isHealthy).1.bind fun rec => r.selector.lookup rec.proxy,
        (r.sticky.get now host r.selector.isHealthy).2.2) := by
  simp [keptProxy, ha]

theorem dispatch_direct (now : Instant) (draw : Draw) (strategy : String)
    (hu : (r.matcher.route target).1 = false) :
    (r.dispatch now draw target strategy).1 =
      .ok { target := target, host := target.host, matchedBy := "direct" } ∧
    (r.dispatch now draw target strategy).2.2 =
      { r with matcher := (r.matcher.route target).2.2 } := by
  rcases hroute : r.matcher.route target with ⟨u, seen, m'⟩
  rw [hroute] at hu
  simp only at hu
  subst hu
  simp [dispatch, hroute]


theorem dispatch_kept (draw : Draw) (strategy : String) (hu : (r.matcher.route target).1 = true)
    {id : ProxyIdentity}
    (hk : (r.keptProxy now target.host).1 = some id) :
    (r.dispatch now draw target strategy).1 =
      .ok { target := target, host := target.host, useProxy := true, ingress := r.ingress,
            strategy := (r.strategyFor strategy).name, proxy := some id, matchedBy := "sticky" } ∧
    (r.dispatch now draw target strategy).2.2.sticky = (r.keptProxy now target.host).2 := by
  rcases hroute : r.matcher.route target with ⟨u, seen, m'⟩
  rw [hroute] at hu
  simp only at hu
  subst hu
  simp [dispatch, hroute, hk]

theorem dispatch_failed (hu : (r.matcher.route target).1 = true)
    (hk : (r.keptProxy now target.host).1 = none) {e : SelectError} {sel : Selector}
    (hs : r.selector.select now draw (r.strategyFor strategy) = (.error e, sel)) :
    (r.dispatch now draw target strategy).1 = .error ⟨target, e⟩ ∧
    (r.dispatch now draw target strategy).2.2.sticky = (r.keptProxy now target.host).2 := by
  rcases hroute : r.matcher.route target with ⟨u, seen, m'⟩
  rw [hroute] at hu
  simp only at hu
  subst hu
  simp [dispatch, hroute, hk, hs]

theorem dispatch_selected (hu : (r.matcher.route target).1 = true)
    (hk : (r.keptProxy now target.host).1 = none) {c : Choice} {sel : Selector}
    (hs : r.selector.select now draw (r.strategyFor strategy) = (.ok c, sel)) :
    (r.dispatch now draw target strategy).1 =
      .ok { target := target, host := target.host, useProxy := true, ingress := r.ingress,
            strategy := (r.strategyFor strategy).name, proxy := some c.proxy,
            matchedBy := "selector" } ∧
    (r.dispatch now draw target strategy).2.2.sticky =
      if r.sticky.shouldApply target.host then
        (r.keptProxy now target.host).2.set now target.host c.proxy.name
      else (r.keptProxy now target.host).2 := by
  rcases hroute : r.matcher.route target with ⟨u, seen, m'⟩
  rw [hroute] at hu
  simp only at hu
  subst hu
  by_cases ha : r.sticky.shouldApply target.host = true
  · simp [dispatch, hroute, hk, hs, ha]
  · simp [dispatch, hroute, hk, hs, ha]
end
end Router

theorem Selector.lookup_name {s : Selector} {p : String} {id : ProxyIdentity}
    (h : s.lookup p = some id) : id.name = p := by
  simpa using List.find?_some h

theorem Selector.lookup_of_isHealthy {s : Selector} {p : String} (h : s.isHealthy p = true) :
    ∃ id, s.lookup p = some id := by
  simp only [Selector.isHealthy, Bool.and_eq_true, List.any_eq_true] at h
  obtain ⟨⟨id, hid, hname⟩, -⟩ := h
  cases hf : s.lookup p with
  | none =>
    have := List.find?_eq_none.mp hf id hid
    exact absurd hname this
  | some id' => exact ⟨id', rfl⟩

/-- A dispatch that reached the session stage: its host, the proxy it gave (none when there was
no candidate), and when. -/
structure Visit where
  host : String
  proxy : Option String
  time : Instant

def givenProxy : Except DispatchError Decision → Option String
  | .ok d => d.proxy.map (·.name)
  | .error _ => none

/-- The visit a dispatch from `r` at `now` makes: one when the rules send the target through a
proxy and sessions apply to its host. -/
def Router.visit (r : Router) (now : Instant) (target : Target)
    (answer : Except DispatchError Decision) : Option Visit :=
  if (r.matcher.route target).1 && r.sticky.shouldApply target.host then
    some ⟨target.host, givenProxy answer, now⟩
  else none

def lastVisit (visits : List Visit) (host : String) : Option (Option String × Instant) :=
  (visits.find? (·.host == host)).map fun v => (v.proxy, v.time)

/-- The session the visits leave a host: the proxy its latest visit gave, for a lifetime from
then. -/
def leftSession (lifetime : Duration) (visits : List Visit) (host : String) : Option StickyRecord :=
  (lastVisit visits host).bind fun v => v.1.map fun p => ⟨p, v.2.add lifetime⟩

/-- The runs under fixed session settings from a router without sessions: dispatches at the
current time, changes of the roster, of the health, of the selector's settings and of the rules,
forward moves of the clock, and sweeps of the expired sessions. The visits are listed latest
first. -/
inductive Run : Router → Instant → List Visit → Prop where
  | start (r : Router) (clock : Instant) : r.sticky.sessions = [] → Run r clock []
  | dispatch {r : Router} {clock : Instant} {visits : List Visit} (draw : Draw) (target : Target)
      (strategy : String) : Run r clock visits →
      Run (r.dispatch clock draw target strategy).2.2 clock
        ((r.visit clock target (r.dispatch clock draw target strategy).1).toList ++ visits)
  | setRoster {r : Router} {clock : Instant} {visits : List Visit} (ids : List ProxyIdentity) :
      Run r clock visits → Run { r with selector := r.selector.setRoster clock ids } clock visits
  | updateHealth {r : Router} {clock : Instant} {visits : List Visit}
      (results : List (String × HealthSample)) :
      Run r clock visits → Run { r with selector := r.selector.updateHealth clock results } clock visits
  | observe {r : Router} {clock : Instant} {visits : List Visit} (name : String)
      (sample : HealthSample) :
      Run r clock visits → Run { r with selector := r.selector.merge name sample } clock visits
  | configure {r : Router} {clock : Instant} {visits : List Visit} {s : Selector} (module : String)
      (payload : Settings.Payload) : Run r clock visits → r.selector.onSettings module payload = .ok s →
      Run { r with selector := s } clock visits
  | rules {r : Router} {clock : Instant} {visits : List Visit} (op : MatcherOp) :
      Run r clock visits → Run { r with matcher := op.apply r.matcher } clock visits
  | advance {r : Router} {clock later : Instant} {visits : List Visit} :
      Run r clock visits → clock ≤ later → Run r later visits
  | sweep {r : Router} {clock : Instant} {visits : List Visit} :
      Run r clock visits → Run { r with sticky := r.sticky.cleanup clock } clock visits

/-- The invariant of a run: one session per host, visits only of hosts that sessions apply to,
and each host's session the one its latest visit left, or none once that one has expired. -/
structure SessionsAgree (r : Router) (clock : Instant) (visits : List Visit) : Prop where
  keyed : r.sticky.Keyed
  applies : ∀ v ∈ visits, r.sticky.shouldApply v.host = true
  agree : ∀ h, r.sticky.session? h = leftSession r.sticky.lifetime visits h ∨
    (r.sticky.session? h = none ∧
      ∃ e, leftSession r.sticky.lifetime visits h = some e ∧ e.expiry < clock)

namespace SessionsAgree

variable {r : Router} {clock : Instant} {visits : List Visit}

theorem session?_of_not_applies (hs : SessionsAgree r clock visits) {h : String}
    (ha : r.sticky.shouldApply h = false) : r.sticky.session? h = none := by
  have hleft : leftSession r.sticky.lifetime visits h = none := by
    cases hf : visits.find? (·.host == h) with
    | none => simp [leftSession, lastVisit, hf]
    | some v =>
      have hv : v.host = h := by simpa using List.find?_some hf
      have := hs.applies v (List.mem_of_find?_eq_some hf)
      rw [hv, ha] at this
      cases this
  rcases hs.agree h with he | ⟨he, -⟩
  · rw [he, hleft]
  · exact he

theorem live_session (hs : SessionsAgree r clock visits) (h : String) (e : StickyRecord)
    (hlive : ¬ e.expiry < clock) :
    r.sticky.session? h = some e ↔ leftSession r.sticky.lifetime visits h = some e := by
  rcases hs.agree h with he | ⟨he, e', hl, hx⟩
  · rw [he]
  · rw [he, hl]
    constructor
    · intro hc; cases hc
    · intro hc
      cases hc
      exact absurd hx hlive

end SessionsAgree

theorem leftSession_eq_some {lifetime : Duration} {visits : List Visit} {h : String}
    {e : StickyRecord} :
    leftSession lifetime visits h = some e ↔
      ∃ t, lastVisit visits h = some (some e.proxy, t) ∧ e.expiry = t.add lifetime := by
  unfold leftSession
  cases hl : lastVisit visits h with
  | none => simp
  | some v =>
    obtain ⟨p, t⟩ := v
    cases p with
    | none => simp
    | some p =>
      simp only [Option.bind_some, Option.map_some, Option.some.injEq, Prod.mk.injEq]
      constructor
      · rintro rfl
        exact ⟨t, ⟨rfl, rfl⟩, rfl⟩
      · rintro ⟨t', ⟨hp, rfl⟩, he⟩
        cases e
        simp_all

theorem SessionsAgree.kept_iff {r : Router} {clock : Instant} {visits : List Visit}
    (hs : SessionsAgree r clock visits) {h p : String} (ha : r.sticky.shouldApply h = true) :
    (∃ id, (r.keptProxy clock h).1 = some id ∧ id.name = p) ↔
      ∃ t, lastVisit visits h = some (some p, t) ∧ clock ≤ t.add r.sticky.lifetime ∧
        r.selector.isHealthy p = true := by
  have he := StickyManager.enabled_of_shouldApply ha
  rw [Router.keptProxy_of_applies ha, StickyManager.get_record he]
  constructor
  · rintro ⟨id, hk, hname⟩
    cases hsess : r.sticky.session? h with
    | none => simp [hsess] at hk
    | some e =>
      simp only [hsess, Option.bind_some] at hk
      by_cases hbad : e.expiry < clock ∨ r.selector.isHealthy e.proxy = false
      · simp [hbad] at hk
      · simp only [hbad, if_false, Option.bind_some] at hk
        have hlive : ¬ e.expiry < clock := fun hx => hbad (.inl hx)
        have hhealthy : r.selector.isHealthy e.proxy = true := by
          simpa using fun hx => hbad (.inr hx)
        have hp : e.proxy = p := (Selector.lookup_name hk).symm.trans hname
        obtain ⟨t, hlast, hexp⟩ := leftSession_eq_some.mp ((hs.live_session h e hlive).mp hsess)
        refine ⟨t, hp ▸ hlast, ?_, hp ▸ hhealthy⟩
        rw [← hexp]
        exact Instant.le_of_not_lt hlive
  · rintro ⟨t, hlast, hle, hhealthy⟩
    let e : StickyRecord := ⟨p, t.add r.sticky.lifetime⟩
    have hlive : ¬ e.expiry < clock := Instant.not_lt_of_le hle
    have hsess : r.sticky.session? h = some e :=
      (hs.live_session h e hlive).mpr (leftSession_eq_some.mpr ⟨t, hlast, rfl⟩)
    obtain ⟨id, hid⟩ := Selector.lookup_of_isHealthy hhealthy
    refine ⟨id, ?_, Selector.lookup_name hid⟩
    simp [hsess, e, hlive, hhealthy, hid]

/-- What a dispatch from `r` at `now`, after the visits `visits`, answers. -/
structure DispatchLaw (r : Router) (now : Instant) (visits : List Visit) (draw : Draw)
    (target : Target) (strategy : String) : Prop where
  /-- A target the rules send direct goes direct, without proxy or ingress, and leaves the
  selector, the sessions and the recent hosts as they were. -/
  direct : (r.matcher.route target).1 = false →
    (r.dispatch now draw target strategy).1 =
      .ok { target := target, host := target.host, matchedBy := "direct" } ∧
    (r.dispatch now draw target strategy).2.2.selector = r.selector ∧
    (r.dispatch now draw target strategy).2.2.sticky = r.sticky ∧
    (r.dispatch now draw target strategy).2.2.recent = r.recent
  /-- Any other target does not go direct. -/
  proxied : (r.matcher.route target).1 = true →
    ∀ d, (r.dispatch now draw target strategy).1 = .ok d → d.matchedBy ≠ "direct"
  /-- Where sessions apply, the answer keeps `p` exactly when the host's latest visit gave `p`
  at most a lifetime ago and `p` is healthy in the roster. -/
  kept : (r.matcher.route target).1 = true → r.sticky.shouldApply target.host = true → ∀ p,
    (∃ d, (r.dispatch now draw target strategy).1 = .ok d ∧ d.matchedBy = "sticky" ∧
      d.proxy.map (·.name) = some p) ↔
    ∃ t, lastVisit visits target.host = some (some p, t) ∧ now ≤ t.add r.sticky.lifetime ∧
      r.selector.isHealthy p = true
  /-- Where they do not, no answer keeps a proxy. -/
  notKept : (r.matcher.route target).1 = true → r.sticky.shouldApply target.host = false →
    ∀ d, (r.dispatch now draw target strategy).1 = .ok d → d.matchedBy ≠ "sticky"
  /-- An answer that keeps no proxy is the selector's choice, or the selector found no candidate
  and the host is left without a session. -/
  chosen : (r.matcher.route target).1 = true →
    (∀ d, (r.dispatch now draw target strategy).1 = .ok d → d.matchedBy ≠ "sticky") →
    (∃ c sel, r.selector.select now draw (r.strategyFor strategy) = (.ok c, sel) ∧
      ∃ d, (r.dispatch now draw target strategy).1 = .ok d ∧ d.matchedBy = "selector" ∧
        d.proxy = some c.proxy) ∨
    (∃ e sel, r.selector.select now draw (r.strategyFor strategy) = (.error e, sel) ∧
      (r.dispatch now draw target strategy).1 = .error ⟨target, e⟩ ∧
      (r.dispatch now draw target strategy).2.2.sticky.session? target.host = none)

namespace Router

variable {r : Router} {now : Instant} {draw : Draw} {target : Target} {strategy : String}

theorem sticky_answer_iff (hu : (r.matcher.route target).1 = true) (p : String) :
    (∃ d, (r.dispatch now draw target strategy).1 = .ok d ∧ d.matchedBy = "sticky" ∧
      d.proxy.map (·.name) = some p) ↔
    ∃ id, (r.keptProxy now target.host).1 = some id ∧ id.name = p := by
  cases hk : (r.keptProxy now target.host).1 with
  | some id =>
    rw [(dispatch_kept draw strategy hu hk).1]
    simp
  | none =>
    rcases hs : r.selector.select now draw (r.strategyFor strategy) with ⟨res, sel⟩
    cases res with
    | error e => simp [(dispatch_failed hu hk hs).1]
    | ok c => simp [(dispatch_selected hu hk hs).1]

theorem not_kept_answer (draw : Draw) (strategy : String) (hu : (r.matcher.route target).1 = true)
    (hk : (r.keptProxy now target.host).1 = none) :
    (∃ c sel, r.selector.select now draw (r.strategyFor strategy) = (.ok c, sel) ∧
      ∃ d, (r.dispatch now draw target strategy).1 = .ok d ∧ d.matchedBy = "selector" ∧
        d.proxy = some c.proxy) ∨
    (∃ e sel, r.selector.select now draw (r.strategyFor strategy) = (.error e, sel) ∧
      (r.dispatch now draw target strategy).1 = .error ⟨target, e⟩ ∧
      (r.dispatch now draw target strategy).2.2.sticky = (r.keptProxy now target.host).2) := by
  rcases hs : r.selector.select now draw (r.strategyFor strategy) with ⟨res, sel⟩
  cases res with
  | ok c => exact .inl ⟨c, sel, rfl, _, (dispatch_selected hu hk hs).1, rfl, rfl⟩
  | error e => exact .inr ⟨e, sel, rfl, dispatch_failed hu hk hs⟩

end Router

theorem leftSession_cons_self (lifetime : Duration) (visits : List Visit) (h : String)
    (p : Option String) (t : Instant) :
    leftSession lifetime (⟨h, p, t⟩ :: visits) h = p.map fun p => ⟨p, t.add lifetime⟩ := by
  cases p <;> simp [leftSession, lastVisit]

theorem leftSession_cons_of_ne (lifetime : Duration) (visits : List Visit) {h h' : String}
    (p : Option String) (t : Instant) (hne : h' ≠ h) :
    leftSession lifetime (⟨h, p, t⟩ :: visits) h' = leftSession lifetime visits h' := by
  simp [leftSession, lastVisit, Ne.symm hne]

namespace Router

variable {r : Router} {now : Instant} {draw : Draw} {target : Target} {strategy : String}

@[simp] theorem keptProxy_lifetime (host : String) :
    (r.keptProxy now host).2.lifetime = r.sticky.lifetime := by
  unfold keptProxy; split <;> simp

@[simp] theorem keptProxy_shouldApply (host : String) :
    (r.keptProxy now host).2.shouldApply = r.sticky.shouldApply := by
  unfold keptProxy; split <;> simp

theorem keptProxy_keyed (hk : r.sticky.Keyed) (host : String) : (r.keptProxy now host).2.Keyed := by
  unfold keptProxy; split
  · exact hk.get
  · exact hk

theorem keptProxy_session_of_ne {host h : String} (hne : h ≠ host) :
    (r.keptProxy now host).2.session? h = r.sticky.session? h := by
  unfold keptProxy; split
  · exact StickyManager.get_session_of_ne hne
  · rfl

theorem keptProxy_session_of_none {clock : Instant} {visits : List Visit}
    (hs : SessionsAgree r clock visits) {host : String} (hk : (r.keptProxy now host).1 = none) :
    (r.keptProxy now host).2.session? host = none := by
  cases ha : r.sticky.shouldApply host with
  | false =>
    rw [keptProxy_of_not_applies ha]
    exact hs.session?_of_not_applies ha
  | true =>
    have he := StickyManager.enabled_of_shouldApply ha
    rw [keptProxy_of_applies ha] at hk ⊢
    simp only at hk ⊢
    rw [StickyManager.get_session_self he]
    cases hg : (r.sticky.get now host r.selector.isHealthy).1 with
    | none => rfl
    | some rec =>
      obtain ⟨id, hid⟩ := Selector.lookup_of_isHealthy (StickyManager.valid_of_get he hg)
      simp [hg, hid] at hk

theorem matchedBy_of_not_kept (hu : (r.matcher.route target).1 = true)
    (hk : (r.keptProxy now target.host).1 = none) {d : Decision}
    (hd : (r.dispatch now draw target strategy).1 = .ok d) : d.matchedBy = "selector" := by
  rcases not_kept_answer draw strategy hu hk with
    ⟨c, sel, -, d', hd', hsel⟩ | ⟨e, sel, -, herr, -⟩
  · rw [hd'] at hd
    cases hd
    exact hsel.1
  · rw [herr] at hd
    cases hd

theorem dispatch_sticky_cases (r : Router) (now : Instant) (draw : Draw) (target : Target)
    (strategy : String) :
    (r.dispatch now draw target strategy).2.2.sticky = r.sticky ∨
    (r.dispatch now draw target strategy).2.2.sticky = (r.keptProxy now target.host).2 ∨
    ∃ p, (r.dispatch now draw target strategy).2.2.sticky =
      (r.keptProxy now target.host).2.set now target.host p := by
  cases hu : (r.matcher.route target).1 with
  | false => exact .inl (by rw [(dispatch_direct now draw strategy hu).2])
  | true =>
    cases hk : (r.keptProxy now target.host).1 with
    | some id => exact .inr (.inl (dispatch_kept draw strategy hu hk).2)
    | none =>
      rcases hs : r.selector.select now draw (r.strategyFor strategy) with ⟨res, sel⟩
      cases res with
      | error e => exact .inr (.inl (dispatch_failed hu hk hs).2)
      | ok c =>
        rw [(dispatch_selected hu hk hs).2]
        split
        · exact .inr (.inr ⟨_, rfl⟩)
        · exact .inr (.inl rfl)

@[simp] theorem dispatch_lifetime :
    (r.dispatch now draw target strategy).2.2.sticky.lifetime = r.sticky.lifetime := by
  rcases dispatch_sticky_cases r now draw target strategy with h | h | ⟨p, h⟩ <;> simp [h]

@[simp] theorem dispatch_shouldApply :
    (r.dispatch now draw target strategy).2.2.sticky.shouldApply = r.sticky.shouldApply := by
  rcases dispatch_sticky_cases r now draw target strategy with h | h | ⟨p, h⟩ <;> simp [h]

theorem dispatch_keyed (hk : r.sticky.Keyed) :
    (r.dispatch now draw target strategy).2.2.sticky.Keyed := by
  rcases dispatch_sticky_cases r now draw target strategy with h | h | ⟨p, h⟩ <;> rw [h]
  · exact hk
  · exact keptProxy_keyed hk _
  · exact (keptProxy_keyed hk _).set p

theorem dispatch_session_of_ne {h : String} (hne : h ≠ target.host) :
    (r.dispatch now draw target strategy).2.2.sticky.session? h = r.sticky.session? h := by
  rcases dispatch_sticky_cases r now draw target strategy with hs | hs | ⟨p, hs⟩ <;> rw [hs]
  · exact keptProxy_session_of_ne hne
  · rw [StickyManager.set_session_of_ne hne, keptProxy_session_of_ne hne]

theorem dispatch_sticky_of_no_visit
    (hv : ((r.matcher.route target).1 && r.sticky.shouldApply target.host) = false) :
    (r.dispatch now draw target strategy).2.2.sticky = r.sticky := by
  cases hu : (r.matcher.route target).1 with
  | false => rw [(dispatch_direct now draw strategy hu).2]
  | true =>
    have ha : r.sticky.shouldApply target.host = false := by simpa [hu] using hv
    have hk : (r.keptProxy now target.host).1 = none := by rw [keptProxy_of_not_applies ha]
    rcases hs : r.selector.select now draw (r.strategyFor strategy) with ⟨res, sel⟩
    cases res with
    | error e => rw [(dispatch_failed hu hk hs).2, keptProxy_of_not_applies ha]
    | ok c => simp [(dispatch_selected hu hk hs).2, ha, keptProxy_of_not_applies ha]

theorem dispatch_session_self {clock : Instant} {visits : List Visit}
    (hs : SessionsAgree r clock visits) (hu : (r.matcher.route target).1 = true)
    (ha : r.sticky.shouldApply target.host = true) :
    (r.dispatch now draw target strategy).2.2.sticky.session? target.host =
      (givenProxy (r.dispatch now draw target strategy).1).map
        fun p => ⟨p, now.add r.sticky.lifetime⟩ := by
  have he := StickyManager.enabled_of_shouldApply ha
  cases hk : (r.keptProxy now target.host).1 with
  | some id =>
    obtain ⟨hans, hsticky⟩ := dispatch_kept draw strategy hu hk
    rw [hans, hsticky]
    rw [keptProxy_of_applies ha] at hk ⊢
    simp only at hk ⊢
    rw [StickyManager.get_session_self he]
    cases hg : (r.sticky.get now target.host r.selector.isHealthy).1 with
    | none => simp [hg] at hk
    | some rec =>
      simp only [hg, Option.bind_some] at hk
      rw [StickyManager.expiry_of_get he hg]
      simp [givenProxy, Selector.lookup_name hk]
  | none =>
    rcases hsel : r.selector.select now draw (r.strategyFor strategy) with ⟨res, sel⟩
    cases res with
    | error e =>
      obtain ⟨hans, hsticky⟩ := dispatch_failed hu hk hsel
      rw [hans, hsticky, keptProxy_session_of_none hs hk]
      rfl
    | ok c =>
      obtain ⟨hans, hsticky⟩ := dispatch_selected hu hk hsel
      have he' : (r.keptProxy now target.host).2.enabled = true :=
        StickyManager.enabled_of_shouldApply (by simpa using ha)
      rw [hans, hsticky, if_pos ha, StickyManager.set_session_self he']
      simp [givenProxy]

end Router

namespace SessionsAgree

variable {r : Router} {clock : Instant} {visits : List Visit}

theorem of_sticky {r' : Router} (hs : SessionsAgree r clock visits) (h : r'.sticky = r.sticky) :
    SessionsAgree r' clock visits where
  keyed := h ▸ hs.keyed
  applies := h ▸ hs.applies
  agree := h ▸ hs.agree

theorem law (hs : SessionsAgree r clock visits) (draw : Draw) (target : Target)
    (strategy : String) : DispatchLaw r clock visits draw target strategy where
  direct hu := by
    obtain ⟨hans, hr⟩ := Router.dispatch_direct clock draw strategy hu
    rw [hr]
    exact ⟨hans, rfl, rfl, rfl⟩
  proxied hu d hd := by
    cases hk : (r.keptProxy clock target.host).1 with
    | some id =>
      rw [(Router.dispatch_kept draw strategy hu hk).1] at hd
      cases hd
      simp
    | none =>
      rw [Router.matchedBy_of_not_kept hu hk hd]
      simp
  kept hu ha p := (Router.sticky_answer_iff hu p).trans (hs.kept_iff ha)
  notKept hu ha d hd := by
    have hk : (r.keptProxy clock target.host).1 = none := by
      rw [Router.keptProxy_of_not_applies ha]
    rw [Router.matchedBy_of_not_kept hu hk hd]
    simp
  chosen hu hnot := by
    cases hk : (r.keptProxy clock target.host).1 with
    | some id => exact absurd rfl (hnot _ (Router.dispatch_kept draw strategy hu hk).1)
    | none =>
      rcases Router.not_kept_answer draw strategy hu hk with
        hc | ⟨e, sel, hsel, herr, hsticky⟩
      · exact .inl hc
      · refine .inr ⟨e, sel, hsel, herr, ?_⟩
        rw [hsticky]
        exact Router.keptProxy_session_of_none hs hk

/-- A dispatch keeps the invariant, with its visit, if any, as the latest. -/
theorem dispatch (hs : SessionsAgree r clock visits) (draw : Draw) (target : Target)
    (strategy : String) :
    SessionsAgree (r.dispatch clock draw target strategy).2.2 clock
      ((r.visit clock target (r.dispatch clock draw target strategy).1).toList ++ visits) := by
  cases hv : ((r.matcher.route target).1 && r.sticky.shouldApply target.host) with
  | false =>
    have hnone : r.visit clock target (r.dispatch clock draw target strategy).1 = none := by
      simp [Router.visit, hv]
    rw [hnone]
    exact hs.of_sticky (Router.dispatch_sticky_of_no_visit hv)
  | true =>
    obtain ⟨hu, ha⟩ := Bool.and_eq_true_iff.mp hv
    have hsome : r.visit clock target (r.dispatch clock draw target strategy).1 =
        some ⟨target.host, givenProxy (r.dispatch clock draw target strategy).1, clock⟩ := by
      simp [Router.visit, hv]
    rw [hsome, Option.toList_some, List.singleton_append]
    refine ⟨Router.dispatch_keyed hs.keyed, ?_, ?_⟩
    · intro v hmem
      rw [Router.dispatch_shouldApply]
      rcases List.mem_cons.mp hmem with hv | hmem
      · have hhost : v.host = target.host := by rw [hv]
        rw [hhost]
        exact ha
      · exact hs.applies v hmem
    · intro h
      rw [Router.dispatch_lifetime]
      by_cases hh : h = target.host
      · -- rewrite rather than substitute: `subst` would unfold `target.host`
        rw [hh]
        left
        rw [Router.dispatch_session_self hs hu ha, leftSession_cons_self]
      · rw [Router.dispatch_session_of_ne hh, leftSession_cons_of_ne _ _ _ _ hh]
        exact hs.agree h

theorem advance (hs : SessionsAgree r clock visits) {later : Instant} (hle : clock ≤ later) :
    SessionsAgree r later visits where
  keyed := hs.keyed
  applies := hs.applies
  agree h := by
    rcases hs.agree h with he | ⟨he, e, hl, hx⟩
    · exact .inl he
    · exact .inr ⟨he, e, hl, Instant.lt_of_lt_of_le hx hle⟩

theorem sweep (hs : SessionsAgree r clock visits) :
    SessionsAgree { r with sticky := r.sticky.cleanup clock } clock visits where
  keyed := hs.keyed.filter _
  applies v hv := by simpa using hs.applies v hv
  agree h := by
    simp only [StickyManager.cleanup_lifetime, hs.keyed.session?_cleanup]
    rcases hs.agree h with he | ⟨he, e, hl, hx⟩
    · rw [he]
      cases hl : leftSession r.sticky.lifetime visits h with
      | none => exact .inl rfl
      | some e =>
        by_cases hx : e.expiry < clock
        · exact .inr ⟨by simp [Option.filter_some, hx], e, rfl, hx⟩
        · exact .inl (by simp [Option.filter_some, hx])
    · rw [he]
      exact .inr ⟨rfl, e, hl, hx⟩

end SessionsAgree

theorem Run.sessionsAgree {r : Router} {clock : Instant} {visits : List Visit}
    (hrun : Run r clock visits) : SessionsAgree r clock visits := by
  induction hrun with
  | start r clock hnil =>
    refine ⟨by simp [StickyManager.Keyed, hnil], by simp, fun h => .inl ?_⟩
    simp [StickyManager.session?, hnil, leftSession, lastVisit]
  | dispatch draw target strategy _ ih => exact ih.dispatch draw target strategy
  | setRoster _ _ ih => exact ih.of_sticky rfl
  | updateHealth _ _ ih => exact ih.of_sticky rfl
  | observe _ _ _ ih => exact ih.of_sticky rfl
  | configure _ _ _ _ ih => exact ih.of_sticky rfl
  | rules _ _ ih => exact ih.of_sticky rfl
  | advance _ hle ih => exact ih.advance hle
  | sweep _ ih => exact ih.sweep

/-- The sticky-session law: along every run, each dispatch answers as `DispatchLaw` says for the
visits made so far. -/
theorem sticky_session_law {r : Router} {clock : Instant} {visits : List Visit}
    (hrun : Run r clock visits) (draw : Draw) (target : Target) (strategy : String) :
    DispatchLaw r clock visits draw target strategy :=
  hrun.sessionsAgree.law draw target strategy

/-- The law at a second visit: a domain rule sends `a.io` through a proxy, the roster holds `a`,
and a first dispatch to `a.io` gave `a` and opened its session. -/
theorem sticky_session_law_second_visit :
    Run ⟨(MatcherOp.addRule "a.io").apply (Matcher.new 0),
      (Selector.new ⟨Strategy.roundRobin, 0.5, false⟩).setRoster Instant.zero [{ name := "a" }], "",
      ⟨Duration.ofSeconds 60, "global", [], []⟩, []⟩ Instant.zero [] ∧
    let r : Router := ⟨(MatcherOp.addRule "a.io").apply (Matcher.new 0),
      (Selector.new ⟨Strategy.roundRobin, 0.5, false⟩).setRoster Instant.zero [{ name := "a" }], "",
      ⟨Duration.ofSeconds 60, "global", [], []⟩, []⟩
    let visits := (r.visit Instant.zero "a.io"
      (r.dispatch Instant.zero {} "a.io" "").1).toList ++ []
    Run (r.dispatch Instant.zero {} "a.io" "").2.2 Instant.zero visits ∧
      lastVisit visits "a.io" = some (some "a", Instant.zero) ∧
      DispatchLaw (r.dispatch Instant.zero {} "a.io" "").2.2 Instant.zero visits {}
        "a.io" "" := by
  have h0 : Run ⟨(MatcherOp.addRule "a.io").apply (Matcher.new 0),
      (Selector.new ⟨Strategy.roundRobin, 0.5, false⟩).setRoster Instant.zero [{ name := "a" }], "",
      ⟨Duration.ofSeconds 60, "global", [], []⟩, []⟩ Instant.zero [] := .start _ _ rfl
  refine ⟨h0, ?_⟩
  intro r visits
  have h1 : Run (r.dispatch Instant.zero {} "a.io" "").2.2 Instant.zero visits :=
    .dispatch {} "a.io" "" h0
  exact ⟨h1, by decide +kernel, sticky_session_law h1 {} "a.io" ""⟩

end ProxyRouter.Selection
