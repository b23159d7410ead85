import ProxyRouter.Console.RoutingTraffic
import ProxyRouter.Proofs.JsonRoundTrip
import ProxyRouter.Proofs.SettingsDelivery
/-!
Requests that add routing rules or load rule templates, handled concurrently.
-/
namespace ProxyRouter

open Settings

/-! ### Routing settings written as JSON and read back -/

namespace Settings

theorem plain_strings (xs : List String) : Json.Plain (Json.strings xs) := by
  refine .array fun x hx => ?_
  obtain ⟨s, -, rfl⟩ := List.mem_map.1 hx
  exact .string s

theorem plain_stringsOrNull : ∀ l : Option (List String), Json.Plain (Json.stringsOrNull l)
  | none => .null
  | some xs => plain_strings xs

theorem RoutingSettings.plain_toJson (rs : RoutingSettings) : Json.Plain rs.toJson := by
  refine .object fun m hm => ?_
  simp only [List.mem_cons, List.mem_nil_iff, or_false] at hm
  rcases hm with rfl | rfl | rfl
  exacts [.bool _, plain_stringsOrNull _, plain_stringsOrNull _]

theorem bindTextItems_strings (c : Json.BindContext) :
    ∀ (xs : List String) (i : Nat) (old : List String),
      Json.bindTextItems c i (xs.map .string) old = .ok xs
  | [], _, _ => rfl
  | x :: xs, i, old => by
    simp [Json.bindTextItems, Json.bindText, bindTextItems_strings c xs, bind, Except.bind, pure,
      Except.pure]

theorem bindTextList_stringsOrNull (c : Json.BindContext) (l : Option (List String))
    (current : Option Json.TextList) :
    ∃ t, Json.bindTextList c (Json.stringsOrNull l) current = .ok t ∧ t.map (·.items) = l := by
  rcases l with _ | _ | ⟨x, xs⟩
  · exact ⟨none, rfl, rfl⟩
  · exact ⟨some {}, rfl, rfl⟩
  · have h := bindTextItems_strings c (x :: xs) 0
    simp only [List.map_cons] at h
    -- the items are read onto whatever the field held, which is left as the spare texts
    cases current with
    | none =>
      exact ⟨some ⟨x :: xs, []⟩, by simp [Json.stringsOrNull, Json.strings, Json.bindTextList,
        Except.map, h], rfl⟩
    | some l =>
      exact ⟨some ⟨x :: xs, (l.items ++ l.spare).drop (xs.length + 1)⟩, by
        simp [Json.stringsOrNull, Json.strings, Json.bindTextList, Except.map, h], rfl⟩

theorem RoutingSettings.bind_toJson (c : Json.BindContext) (rs current : RoutingSettings) :
    RoutingSettings.bind c rs.toJson current = .ok rs := by
  obtain ⟨b, templates, rules⟩ := rs
  -- the three members are read in order, each onto its own field
  obtain ⟨t, hbt, rfl⟩ := bindTextList_stringsOrNull (c.enter "RoutingSettings" "templates")
    templates current.draft.templates
  obtain ⟨r, hbr, rfl⟩ := bindTextList_stringsOrNull (c.enter "RoutingSettings" "rules")
    rules current.draft.rules
  have hu : Json.fieldFor ["use_defaults", "templates", "rules"] "use_defaults" =
      some "use_defaults" := by decide
  have ht : Json.fieldFor ["use_defaults", "templates", "rules"] "templates" = some "templates" := by
    decide
  have hr : Json.fieldFor ["use_defaults", "templates", "rules"] "rules" = some "rules" := by decide
  have hdraft : RoutingDraft.bind c (RoutingSettings.toJson ⟨b, t.map (·.items), r.map (·.items)⟩)
      current.draft = .ok ⟨b, t, r⟩ := by
    simp only [RoutingDraft.bind, RoutingSettings.toJson, List.foldlM, hu, ht, hr, Json.bindFlag]
    -- inside `RoutingSettings`, a bare `bind` names the settings reader
    simp only [Bind.bind, Except.bind, pure, Except.pure]
    simp [hbt, hbr]
  simp [RoutingSettings.bind, hdraft, Except.map, RoutingDraft.settings]

namespace SettingsStore

theorem readModule_routing (current : RuntimeSettings) (rs : RoutingSettings) :
    readModule current routingKey (Json.compact rs.toJson) =
      .ok (.routing rs, { current.copy with routing := rs }) := by
  have hsel : (routingKey == selectorKey) = false := by decide
  simp [readModule, hsel, Json.parse_compact (RoutingSettings.plain_toJson rs),
    RoutingSettings.bind_toJson, bind, Except.bind, pure, Except.pure, Except.mapError]

theorem update_routing {st store : SettingsStore} {rs : RoutingSettings} {p : Payload}
    (h : st.update routingKey (Json.compact rs.toJson) = .ok (p, store)) :
    p = .routing rs ∧ store.current.routing = rs := by
  have hread := readModule_of_update h
  rw [readModule_routing] at hread
  simp only [Except.ok.injEq, Prod.mk.injEq] at hread
  obtain ⟨rfl, hcur⟩ := hread
  exact ⟨rfl, by rw [← hcur]⟩

theorem update_routing_inMemory {st : SettingsStore} (hfile : st.file = none)
    (rs : RoutingSettings) :
    st.update routingKey (Json.compact rs.toJson) =
      .ok (.routing rs, { st with current := { st.current.copy with routing := rs } }) := by
  simp [update, readModule_routing, hfile, bind, Except.bind, pure, Except.pure]

end SettingsStore

/-! ### Routing settings that hold others -/

/-- Routing settings `r'` hold what routing settings `r` put in force: the built-in rules when `r`
loads them, and every template and rule `r` names. -/
structure RoutingSettings.Extends (r' r : RoutingSettings) : Prop where
  useDefaults : r.useDefaults = true → r'.useDefaults = true
  templates : ∀ n ∈ r.templates.getD [], n ∈ r'.templates.getD []
  rules : ∀ x ∈ r.rules.getD [], x ∈ r'.rules.getD []

theorem RoutingSettings.Extends.refl (r : RoutingSettings) : r.Extends r :=
  ⟨id, fun _ => id, fun _ => id⟩

theorem RoutingSettings.Extends.trans {r₁ r₂ r₃ : RoutingSettings} (h₃ : r₃.Extends r₂)
    (h₂ : r₂.Extends r₁) : r₃.Extends r₁ :=
  ⟨h₃.useDefaults ∘ h₂.useDefaults, fun n hn => h₃.templates n (h₂.templates n hn),
    fun x hx => h₃.rules x (h₂.rules x hx)⟩

theorem RoutingSettings.Extends.copy {s : RuntimeSettings} {r : RoutingSettings}
    (h : s.routing.Extends r) : s.copy.routing.Extends r :=
  ⟨h.useDefaults, by simpa [RuntimeSettings.copy] using h.templates,
    by simpa [RuntimeSettings.copy] using h.rules⟩

end Settings

/-! ### What a request asks for -/

namespace Console

open Routing

theorem mem_uniq {x : String} {xs : List String} : x ∈ uniq xs ↔ x ∈ xs := by
  -- the texts kept so far and the texts still to come hold the same texts as before
  have key : ∀ (l acc : List String),
      x ∈ l.foldl (fun acc y => if acc.contains y then acc else acc ++ [y]) acc ↔ x ∈ acc ∨ x ∈ l := by
    intro l
    induction l with
    | nil => simp
    | cons y l ih =>
      intro acc
      rw [List.foldl_cons, ih, List.mem_cons]
      split
      · rename_i hy
        have hmem : y ∈ acc := by simpa using hy
        constructor
        · rintro (h | h)
          exacts [.inl h, .inr (.inr h)]
        · rintro (h | rfl | h)
          exacts [.inl h, .inl hmem, .inr h]
      · simp [or_assoc]
  unfold uniq
  rw [key]
  simp

theorem isSome_template?_of_contains {name : String} (h : templateNames.contains name = true) :
    (template? name).isSome := by
  obtain ⟨p, hp, rfl⟩ := List.mem_map.1 (by simpa using h : name ∈ templateNames)
  simp only [template?, Option.isSome_map]
  exact List.find?_isSome.2 ⟨p, hp, by simp⟩

def rulesBody (rules : List String) : String :=
  Json.compact (.object [("rules", Json.strings rules)])

theorem rulesOfBody_rulesBody (rules : List String) :
    rulesOfBody (rulesBody rules) = some (some rules) := by
  have hplain : Json.Plain (.object [("rules", Json.strings rules)]) :=
    .object fun m hm => by
      rw [List.mem_singleton.1 hm]
      exact plain_strings rules
  obtain ⟨t, ht, hitems⟩ := bindTextList_stringsOrNull {} (some rules) none
  have hkey : Json.fieldFor ["rules"] "rules" = some "rules" := by decide
  simp only [Json.stringsOrNull] at ht
  simp [rulesOfBody, rulesBody, Json.parsePrefix_compact hplain, List.foldlM, hkey, ht, hitems]

/-- The change a request asks for is in force in routing settings `r`: every valid rule text of
the `POST /api/rules` body is among the rules, and `POST /api/rules/defaults` has the built-in
rules loaded, or its template named. -/
def RoutingRequest.Granted : RoutingRequest → RoutingSettings → Prop
  | .addRules body, r => ∀ rules, rulesOfBody body = some rules →
      ∀ x ∈ rules.getD [], (Rule.parse x).toOption.isSome → x ∈ r.rules.getD []
  | .loadDefaults name, r => if name.isEmpty then r.useDefaults = true else name ∈ r.templates.getD []

theorem RoutingRequest.Granted.mono {req : RoutingRequest} {r r' : RoutingSettings}
    (h : req.Granted r) (hr : r'.Extends r) : req.Granted r' := by
  cases req with
  | addRules body => exact fun rules hb x hx hv => hr.rules x (h rules hb x hx hv)
  | loadDefaults name =>
    cases he : name.isEmpty <;> simp only [Granted, he, ↓reduceIte, Bool.false_eq_true] at h ⊢
    exacts [hr.templates name h, hr.useDefaults h]

theorem RoutingRequest.plan_store {req : RoutingRequest} {read rs : RoutingSettings}
    {invalid : Option (List String)} (h : req.plan read = .store rs invalid) :
    rs.Extends read ∧ req.Granted rs ∧ (read.KnownTemplates → rs.KnownTemplates) := by
  cases req with
  | addRules body =>
    simp only [plan, rulesPlan] at h
    split at h
    · cases h
    · rename_i rules hb
      obtain ⟨rfl, -⟩ := RoutingPlan.store.inj h
      refine ⟨⟨id, fun _ => id, fun x hx => mem_uniq.2 (List.mem_append_left _ hx)⟩, ?_, id⟩
      intro rules' hb' x hx hv
      obtain rfl : rules = rules' := Option.some.inj (hb.symm.trans hb')
      exact mem_uniq.2 (List.mem_append_right _ (List.mem_filter.2 ⟨hx, hv⟩))
  | loadDefaults name =>
    simp only [plan, defaultsPlan] at h
    split at h
    · rename_i he
      obtain ⟨rfl, -⟩ := RoutingPlan.store.inj h
      exact ⟨⟨fun _ => rfl, fun _ => id, fun _ => id⟩, by simp [Granted, he], id⟩
    · split at h
      · cases h
      · rename_i he hc
        obtain ⟨rfl, -⟩ := RoutingPlan.store.inj h
        refine ⟨⟨id, fun n hn => mem_uniq.2 (List.mem_append_left _ hn), fun _ => id⟩,
          by simp [Granted, he, mem_uniq], fun hk n hn => ?_⟩
        simp only [Option.getD_some, mem_uniq, List.mem_append, List.mem_singleton] at hn
        rcases hn with hn | rfl
        · exact hk n hn
        · exact isSome_template?_of_contains (by simpa using hc)

@[simp] theorem jsonResponse_status (status : Nat) (body : Json) :
    (jsonResponse status body).status = status := rfl

@[simp] theorem errorResponse_status (status : Nat) (message : String) :
    (errorResponse status message).status = status := rfl

theorem RoutingRequest.plan_answer {req : RoutingRequest} {read : RoutingSettings}
    {r : ApiResponse} (h : req.plan read = .answer r) : r.status ≠ 200 := by
  cases req with
  | addRules body =>
    simp only [plan, rulesPlan] at h
    split at h
    · cases h
      simp
    · cases h
  | loadDefaults name =>
    simp only [plan, defaultsPlan] at h
    split at h
    · cases h
    · split at h
      · cases h
        simp
      · cases h

/-! ### Storing routing settings -/

namespace RouterState

theorem notify_routing_eq (s : RouterState) (c : RoutingSettings) :
    s.notify routingKey (.routing c) =
      match s.router.matcher.replace c.useDefaults (c.templates.getD []) (c.rules.getD []) with
      | .ok m => (none, { s with router := { s.router with matcher := m } })
      | .error e => (some e.message, s) := by
  have hkey : (routingKey == selectorKey) = false := by decide
  cases hr : s.router.matcher.replace c.useDefaults (c.templates.getD []) (c.rules.getD []) <;>
    simp [notify, hkey, Matcher.onSettings, hr]

theorem routing_updateSettings_routing (s : RouterState) (rs : RoutingSettings) :
    (s.updateSettings routingKey (Json.compact rs.toJson)).2.settings.current.routing =
        s.settings.current.routing ∨
      (s.updateSettings routingKey (Json.compact rs.toJson)).2.settings.current.routing = rs := by
  cases hu : s.settings.update routingKey (Json.compact rs.toJson) with
  | error f => exact .inl (by rw [updateSettings_of_refused hu])
  | ok out =>
    obtain ⟨p, store⟩ := out
    rw [updateSettings_of_stored hu, notify_settings]
    exact .inr (SettingsStore.update_routing hu).2

theorem routing_updateSettings_of_ne (s : RouterState) {module : String} (text : String)
    (hm : module ≠ routingKey) :
    (s.updateSettings module text).2.settings.current.routing = s.settings.current.routing ∨
      (s.updateSettings module text).2.settings.current.routing = s.settings.current.copy.routing := by
  cases hu : s.settings.update module text with
  | error f => exact .inl (by rw [updateSettings_of_refused hu])
  | ok out =>
    obtain ⟨p, store⟩ := out
    rw [updateSettings_of_stored hu, notify_settings]
    rcases SettingsStore.readModule_cases (SettingsStore.readModule_of_update hu) with
      ⟨-, c, -, hcur⟩ | ⟨hr, -⟩ | ⟨-, c, -, hcur⟩
    · exact .inr (by rw [hcur])
    · exact absurd hr hm
    · exact .inr (by rw [hcur])

end RouterState

open RouterState

theorem updateRouting_state (s : RouterState) (rs : RoutingSettings)
    (invalid : Option (List String)) :
    (updateRouting s rs invalid).2 = (s.updateSettings routingKey (Json.compact rs.toJson)).2 := by
  unfold updateRouting
  split <;> (rename_i heq; rw [heq])

theorem updateRouting_ok {s : RouterState} {rs : RoutingSettings} {invalid : Option (List String)}
    (h : (updateRouting s rs invalid).1.status = 200) :
    (updateRouting s rs invalid).2.settings.current.routing = rs ∧ rs.KnownTemplates := by
  unfold updateRouting at h ⊢
  cases hu : s.settings.update routingKey (Json.compact rs.toJson) with
  | error f => simp [updateSettings, hu] at h
  | ok out =>
    obtain ⟨p, store⟩ := out
    obtain ⟨rfl, hstored⟩ := SettingsStore.update_routing hu
    cases hr : s.router.matcher.replace rs.useDefaults (rs.templates.getD []) (rs.rules.getD []) with
    | error e => simp [updateSettings, hu, notify_routing_eq, hr] at h
    | ok m =>
      exact ⟨by simp [updateSettings, hu, notify_routing_eq, hr, hstored],
        (Matcher.replace_ok_iff _ _ _ _).1 ⟨m, hr⟩⟩

theorem updateRouting_inMemory {s : RouterState} (hfile : s.settings.file = none)
    {rs : RoutingSettings} (hknown : rs.KnownTemplates) (invalid : Option (List String)) :
    (updateRouting s rs invalid).1.status = 200 ∧ (updateRouting s rs invalid).2.settings =
      { s.settings with current := { s.settings.current.copy with routing := rs } } := by
  obtain ⟨m, hm⟩ := (Matcher.replace_ok_iff s.router.matcher rs.useDefaults _ _).2 hknown
  have hstep : s.updateSettings routingKey (Json.compact rs.toJson) = (.applied,
      { s with settings := { s.settings with current := { s.settings.current.copy with routing := rs } },
               router := { s.router with matcher := m } }) := by
    rw [updateSettings, SettingsStore.update_routing_inMemory hfile]
    simp only [notify_routing_eq]
    rw [hm]
  unfold updateRouting
  rw [hstep]
  exact ⟨jsonResponse_status _ _, rfl⟩

/-! ### Runs of requests -/

/-- The event stores no routing settings from elsewhere: a request reading or storing its own, or
an update of another module's settings. -/
def TrafficEvent.LeavesRouting : TrafficEvent → Prop
  | .update module _ => module ≠ routingKey
  | _ => True

namespace RoutingTraffic

theorem step_write_head (s : RouterState) (req : RoutingRequest) (read : RoutingSettings)
    (rest : List (RoutingRequest × RoutingSettings)) :
    (⟨s, (req, read) :: rest⟩ : RoutingTraffic).step (.write 0) =
      ⟨((req.plan read).carryOut s).2, rest⟩ := by
  simp only [RoutingTraffic.step, List.getElem?_cons_zero, List.eraseIdx_cons_zero]

/-- The stored routing settings and the ones every request in flight read hold `F` and name only
known templates, and the live modules follow the store. -/
structure Retains (F : RoutingSettings) (t : RoutingTraffic) : Prop where
  follows : FollowsStore t.state
  stored : t.state.settings.current.routing.Extends F
  known : t.state.settings.current.routing.KnownTemplates
  reads : ∀ p ∈ t.inFlight, p.2.Extends F ∧ p.2.KnownTemplates

/-- An update that keeps the stored routing settings, or stores ones that hold `F` and name only
known templates, keeps `Retains F` for the requests still in flight. -/
theorem Retains.update {F : RoutingSettings} {t : RoutingTraffic} (h : t.Retains F)
    {module text : String} {inFlight : List (RoutingRequest × RoutingSettings)}
    (hin : ∀ p ∈ inFlight, p ∈ t.inFlight)
    (hr : (t.state.updateSettings module text).2.settings.current.routing =
        t.state.settings.current.routing ∨
      ((t.state.updateSettings module text).2.settings.current.routing.Extends F ∧
        (t.state.updateSettings module text).2.settings.current.routing.KnownTemplates)) :
    Retains F ⟨(t.state.updateSettings module text).2, inFlight⟩ := by
  refine ⟨h.follows.update module text, ?_, ?_, fun p hp => h.reads p (hin p hp)⟩
  all_goals
    rcases hr with heq | ⟨hext, hknown⟩
    · simp only [heq]
      first
        | exact h.stored
        | exact h.known
    · first
        | exact hext
        | exact hknown

/-- Every event of such a run keeps `Retains F`: a reading holds what is stored, a request stores
what it read with its change made, and another module's update keeps a copy of the stored routing
settings. -/
theorem Retains.step {F : RoutingSettings} {t : RoutingTraffic} (h : t.Retains F)
    {e : TrafficEvent} (he : e.LeavesRouting) : (t.step e).Retains F := by
  cases e with
  | read req =>
    refine ⟨h.follows, h.stored, h.known, fun p hp => ?_⟩
    rcases List.mem_append.1 hp with hp | hp
    · exact h.reads p hp
    · rw [List.mem_singleton.1 hp]
      exact ⟨h.stored, h.known⟩
  | write i =>
    rw [RoutingTraffic.step]
    split
    · rename_i req read hi
      obtain ⟨hext, hknown⟩ := h.reads _ (List.mem_of_getElem? hi)
      have hin : ∀ p ∈ t.inFlight.eraseIdx i, p ∈ t.inFlight := fun p hp => List.mem_of_mem_eraseIdx hp
      cases hp : req.plan read with
      | answer r => exact ⟨h.follows, h.stored, h.known, fun p hq => h.reads p (hin p hq)⟩
      | store rs invalid =>
        obtain ⟨hrs, -, hrk⟩ := RoutingRequest.plan_store hp
        simp only [RoutingPlan.carryOut, updateRouting_state]
        refine h.update hin ?_
        rcases routing_updateSettings_routing t.state rs with heq | heq
        · exact .inl heq
        · rw [heq]
          exact .inr ⟨hrs.trans hext, hrk hknown⟩
    · exact h
  | update module text =>
    refine h.update (fun p hp => hp) ?_
    rcases routing_updateSettings_of_ne t.state text he with heq | heq
    · exact .inl heq
    · rw [heq]
      exact .inr ⟨h.stored.copy, (RoutingSettings.knownTemplates_copy _).2 h.known⟩

theorem Retains.run {F : RoutingSettings} {t : RoutingTraffic} (h : t.Retains F)
    {events : List TrafficEvent} (he : ∀ e ∈ events, e.LeavesRouting) : (t.run events).Retains F := by
  induction events generalizing t with
  | nil => exact h
  | cons e es ih => exact ih (h.step (he e List.mem_cons_self)) fun e' he' => he e' (List.mem_cons_of_mem e he')

/-- A request that stores its routing settings with no other request in flight, and answers 200,
keeps its change in force over every run that follows of requests reading and storing, in any
interleaving, and of updates of other modules' settings: its valid rules, its template or the
built-in rules stay in the stored routing settings, and the matcher's rules are the ones those
settings build. -/
theorem granted_routing_change_stays_in_force {t : RoutingTraffic} {req : RoutingRequest}
    {read : RoutingSettings} {events : List TrafficEvent} (hfollows : FollowsStore t.state)
    (halone : t.inFlight = [(req, read)])
    (hok : ((req.plan read).carryOut t.state).1.status = 200)
    (hquiet : ∀ e ∈ events, e.LeavesRouting) :
    let s := ((t.step (.write 0)).run events).state
    req.Granted s.settings.current.routing ∧
      s.router.matcher.FollowsRouting s.settings.current.routing := by
  intro s
  cases hp : req.plan read with
  | answer r =>
    rw [hp] at hok
    exact absurd hok (RoutingRequest.plan_answer hp)
  | store rs invalid =>
    rw [hp] at hok
    obtain ⟨hstored, hknown⟩ := updateRouting_ok hok
    obtain ⟨-, hgrant, -⟩ := RoutingRequest.plan_store hp
    have hwrite : t.step (.write 0) = ⟨(updateRouting t.state rs invalid).2, []⟩ := by
      obtain ⟨state, inFlight⟩ := t
      subst halone
      rw [step_write_head, hp, RoutingPlan.carryOut]
    -- right after the write the stored settings are the request's own, and nothing is in flight
    have hstart : (t.step (.write 0)).Retains rs := by
      rw [hwrite]
      refine ⟨?_, by rw [hstored]; exact .refl rs, by rw [hstored]; exact hknown, by simp⟩
      rw [updateRouting_state]
      exact hfollows.update _ _
    have hend := hstart.run hquiet
    exact ⟨hgrant.mono hend.stored, hend.follows.matcher hend.known⟩

/-- Loading the built-in rules with no other request in flight, then a request loading a template
and storing in turn. -/
theorem built_in_rules_stay_loaded :
    let t : RoutingTraffic :=
      { state := quietState, inFlight := [(.loadDefaults "", quietSettings.routing)] }
    let events := [TrafficEvent.read (.loadDefaults "ip_testing"), .write 0]
    FollowsStore t.state ∧
      (((RoutingRequest.loadDefaults "").plan quietSettings.routing).carryOut t.state).1.status =
        200 ∧
      let s := ((t.step (.write 0)).run events).state
      (RoutingRequest.loadDefaults "").Granted s.settings.current.routing ∧
        s.router.matcher.FollowsRouting s.settings.current.routing := by
  intro t events
  have hfollows : FollowsStore t.state := (assemble_ok quietState_assembled).2.1
  have hplan : (RoutingRequest.loadDefaults "").plan quietSettings.routing =
      .store { quietSettings.routing with useDefaults := true } none := by
    simp [RoutingRequest.plan, defaultsPlan]
  have hknown : RoutingSettings.KnownTemplates { quietSettings.routing with useDefaults := true } := by
    intro n hn
    simp [quietSettings] at hn
  -- the status is compared as it stands: unfolding it would evaluate the whole update
  have hok : (((RoutingRequest.loadDefaults "").plan quietSettings.routing).carryOut
      t.state).1.status = 200 := by
    rw [hplan, RoutingPlan.carryOut]
    exact (@updateRouting_inMemory t.state rfl _ hknown none).1
  have hquiet : ∀ e ∈ events, e.LeavesRouting := by
    simp [events, TrafficEvent.LeavesRouting]
  exact ⟨hfollows, hok, granted_routing_change_stays_in_force hfollows rfl hok hquiet⟩

/-- Two `POST /api/rules` requests that both read the routing settings before either stores its
own: the first answers 200 with its rule stored, and the second, storing the rules it read with its
own added, takes the first one's rule out again. -/
theorem racing_rule_request_lost :
    let first := RoutingRequest.addRules (rulesBody ["a.example"])
    let second := RoutingRequest.addRules (rulesBody ["b.example"])
    let t := ({ state := quietState } : RoutingTraffic).run [.read first, .read second]
    ((first.plan quietSettings.routing).carryOut t.state).1.status = 200 ∧
      first.Granted (t.step (.write 0)).state.settings.current.routing ∧
      ¬ first.Granted (t.run [.write 0, .write 0]).state.settings.current.routing := by
  intro first second t
  have hvalid : ∀ x ∈ ["a.example", "b.example"], (Rule.parse x).toOption.isSome = true := by
    decide
  have hplan : ∀ x ∈ ["a.example", "b.example"], (RoutingRequest.addRules (rulesBody [x])).plan
      quietSettings.routing = .store ⟨false, some [], some [x]⟩ (some []) := by
    intro x hx
    have hsome := hvalid x hx
    have hnone : (Rule.parse x).toOption.isNone = false := by
      cases h : (Rule.parse x).toOption <;> simp_all
    simp only [RoutingRequest.plan, rulesPlan, rulesOfBody_rulesBody, Option.getD_some,
      List.filter_singleton, hsome, hnone]
    simp [uniq, quietSettings]
  have hknown : ∀ x, RoutingSettings.KnownTemplates ⟨false, some [], some [x]⟩ := by
    intro x n hn
    simp at hn
  have hA := hplan "a.example" (by simp)
  have hB := hplan "b.example" (by simp)
  obtain ⟨hokA, hsetA⟩ := @updateRouting_inMemory quietState rfl _ (hknown "a.example") (some [])
  have hfileA : (updateRouting quietState ⟨false, some [], some ["a.example"]⟩
      (some [])).2.settings.file = none := by
    rw [hsetA]
    rfl
  obtain ⟨-, hsetB⟩ := @updateRouting_inMemory _ hfileA _ (hknown "b.example") (some [])
  -- both requests read the empty rules before either stores
  have ht : t = ⟨quietState, [(first, quietSettings.routing), (second, quietSettings.routing)]⟩ :=
    rfl
  have hw1 : t.step (.write 0) = ⟨(updateRouting quietState ⟨false, some [], some ["a.example"]⟩
      (some [])).2, [(second, quietSettings.routing)]⟩ := by
    rw [ht, step_write_head, hA, RoutingPlan.carryOut]
  have hw2 : (t.step (.write 0)).step (.write 0) =
      ⟨(updateRouting (updateRouting quietState ⟨false, some [], some ["a.example"]⟩ (some [])).2
        ⟨false, some [], some ["b.example"]⟩ (some [])).2, []⟩ := by
    rw [hw1, step_write_head, hB, RoutingPlan.carryOut]
  refine ⟨?_, ?_, ?_⟩
  · rw [ht]
    dsimp only
    rw [hA, RoutingPlan.carryOut]
    exact hokA
  · rw [hw1]
    dsimp only
    rw [hsetA]
    exact (RoutingRequest.plan_store hA).2.1
  · simp only [RoutingTraffic.run, List.foldl_cons, List.foldl_nil]
    rw [hw2]
    dsimp only
    rw [hsetB]
    intro h
    have hmem := h (some ["a.example"]) (rulesOfBody_rulesBody _) "a.example" (by simp)
      (hvalid _ (by simp))
    simp at hmem

end RoutingTraffic

end Console

end ProxyRouter
