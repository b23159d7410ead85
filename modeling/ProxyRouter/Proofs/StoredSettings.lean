import ProxyRouter.Console.State
/-!
Stored settings and the live modules. An update of a module's settings is read and stored first,
and only then handed to the module, whose refusal is reported but leaves the new settings stored.
The selector and the sticky sessions take every settings they are handed, so they always follow
the store. The matcher refuses routing settings that name a template it does not know; such
settings stay stored while the matcher keeps its rules, and a router assembled again from the
store fails. So the matcher follows the store exactly when the stored routing settings name only
known templates, and exactly then the store can be assembled again.
-/
namespace ProxyRouter

theorem except_bind_ok {ε α β : Type} (x : Except ε α) (f : α → Except ε β) (b : β) :
    x >>= f = .ok b ↔ ∃ a, x = .ok a ∧ f a = .ok b := by
  cases x <;> simp [bind, Except.bind]

@[simp] theorem mapError_of_error {ε ε' α : Type} (e : ε) (f : ε → ε') :
    (Except.error e : Except ε α).mapError f = .error (f e) := rfl

@[simp] theorem mapError_of_ok {ε ε' α : Type} (a : α) (f : ε → ε') :
    (Except.ok a : Except ε α).mapError f = .ok a := rfl

theorem except_mapError_ok {ε ε' α : Type} (x : Except ε α) (f : ε → ε') (a : α) :
    x.mapError f = .ok a ↔ x = .ok a := by
  cases x <;> simp

namespace Settings

def RoutingSettings.KnownTemplates (r : RoutingSettings) : Prop :=
  ∀ n ∈ r.templates.getD [], (Routing.template? n).isSome

namespace SettingsStore

theorem readModule_cases {cur : RuntimeSettings} {module text : String} {p : Payload}
    {next : RuntimeSettings} (h : readModule cur module text = .ok (p, next)) :
    (module = selectorKey ∧ ∃ c, p = .selector c ∧ next = { cur.copy with selector := c }) ∨
    (module = routingKey ∧ ∃ c, p = .routing c ∧ next = { cur.copy with routing := c }) ∨
    (module = stickyKey ∧ ∃ c, p = .sticky c ∧ next = { cur.copy with sticky := c }) := by
  unfold readModule at h
  split at h
  · rename_i hm
    simp only [except_bind_ok, pure, Except.pure, Except.ok.injEq, Prod.mk.injEq] at h
    obtain ⟨j, -, c, -, hp, hn⟩ := h
    exact .inl ⟨by simpa using hm, c, hp.symm, hn.symm⟩
  · split at h
    · rename_i _ hm
      simp only [except_bind_ok, pure, Except.pure, Except.ok.injEq, Prod.mk.injEq] at h
      obtain ⟨j, -, c, -, hp, hn⟩ := h
      exact .inr (.inl ⟨by simpa using hm, c, hp.symm, hn.symm⟩)
    · split at h
      · rename_i _ _ hm
        simp only [except_bind_ok, pure, Except.pure, Except.ok.injEq, Prod.mk.injEq] at h
        obtain ⟨j, -, c, -, hp, hn⟩ := h
        exact .inr (.inr ⟨by simpa using hm, c, hp.symm, hn.symm⟩)
      · simp [throw, throwThe, MonadExceptOf.throw] at h

theorem readModule_of_update {st : SettingsStore} {module text : String} {p : Payload}
    {store : SettingsStore} (h : st.update module text = .ok (p, store)) :
    readModule st.current module text = .ok (p, store.current) := by
  unfold update at h
  simp only [except_bind_ok] at h
  obtain ⟨⟨p', next⟩, hread, h⟩ := h
  split at h
  · simp only [pure, Except.pure, Except.ok.injEq, Prod.mk.injEq] at h
    obtain ⟨rfl, rfl⟩ := h
    exact hread
  · split at h
    · simp only [pure, Except.pure, Except.ok.injEq, Prod.mk.injEq] at h
      obtain ⟨rfl, rfl⟩ := h
      exact hread
    · simp [throw, throwThe, MonadExceptOf.throw] at h

end SettingsStore

@[simp] theorem RuntimeSettings.copy_selector (s : RuntimeSettings) : s.copy.selector = s.selector :=
  rfl

theorem RoutingSettings.knownTemplates_copy (s : RuntimeSettings) :
    s.copy.routing.KnownTemplates ↔ s.routing.KnownTemplates := by
  simp [KnownTemplates, RuntimeSettings.copy]

end Settings

namespace Routing

open Settings

namespace Matcher

theorem ruleTexts_gather_ok_iff (names : List String) :
    (∃ texts, ruleTexts.gather names = .ok texts) ↔ ∀ n ∈ names, (template? n).isSome := by
  induction names with
  | nil => simp [ruleTexts.gather]
  | cons n ns ih =>
    cases hn : template? n with
    | none => simp [ruleTexts.gather, hn]
    | some rs =>
      -- a known template's rules go before the others', which decide
      simp only [List.forall_mem_cons, hn, Option.isSome_some, true_and, ← ih, ruleTexts.gather]
      cases ruleTexts.gather ns <;> simp [Except.map]

theorem replace_eq (m : Matcher) (useDefaults : Bool) (names rules : List String) :
    m.replace useDefaults names rules = (ruleTexts useDefaults names rules).map fun texts =>
      { m with book := (parseAll texts).foldl RuleBook.add {}, cache := m.cache.clear } := rfl

theorem replace_ok_iff (m : Matcher) (useDefaults : Bool) (names rules : List String) :
    (∃ m', m.replace useDefaults names rules = .ok m') ↔ ∀ n ∈ names, (template? n).isSome := by
  rw [← ruleTexts_gather_ok_iff, replace_eq]
  unfold ruleTexts
  cases ruleTexts.gather names <;> simp [Except.map]

def FollowsRouting (m : Matcher) (r : RoutingSettings) : Prop :=
  ∃ m', m.replace r.useDefaults (r.templates.getD []) (r.rules.getD []) = .ok m' ∧ m'.book = m.book

theorem followsRouting_of_replace {m m' : Matcher} {r : RoutingSettings}
    (h : m.replace r.useDefaults (r.templates.getD []) (r.rules.getD []) = .ok m') :
    m'.FollowsRouting r := by
  rw [replace_eq] at h
  cases ht : ruleTexts r.useDefaults (r.templates.getD []) (r.rules.getD []) with
  | error e => simp [ht, Except.map] at h
  | ok texts =>
    simp only [ht, Except.map, Except.ok.injEq] at h
    subst h
    exact ⟨_, by rw [replace_eq, ht]; rfl, rfl⟩

theorem FollowsRouting.known {m : Matcher} {r : RoutingSettings} (h : m.FollowsRouting r) :
    r.KnownTemplates := by
  obtain ⟨m', hm', -⟩ := h
  exact (replace_ok_iff _ _ _ _).mp ⟨m', hm'⟩

theorem followsRouting_copy (m : Matcher) (s : RuntimeSettings) :
    m.FollowsRouting s.copy.routing ↔ m.FollowsRouting s.routing := by
  simp [FollowsRouting, RuntimeSettings.copy]

end Matcher

end Routing

namespace Selection

theorem StickyManager.new_copy (s : Settings.RuntimeSettings) :
    StickyManager.new (some s.copy.sticky) = StickyManager.new (some s.sticky) := by
  simp [StickyManager.new, Settings.RuntimeSettings.copy]

end Selection

namespace Console

open Settings Selection Routing

namespace RouterState

theorem updateSettings_of_refused {s : RouterState} {module text : String} {f : UpdateFault}
    (h : s.settings.update module text = .error f) : (s.updateSettings module text).2 = s := by
  simp [updateSettings, h]

theorem updateSettings_of_stored {s : RouterState} {module text : String} {p : Payload}
    {store : SettingsStore} (h : s.settings.update module text = .ok (p, store)) :
    (s.updateSettings module text).2 = (({ s with settings := store } : RouterState).notify module p).2 := by
  unfold updateSettings
  rw [h]
  cases hn : ({ s with settings := store } : RouterState).notify module p with
  | mk e s' => cases e <;> simp [hn]

theorem notify_selector (s : RouterState) (c : SelectorSettings) :
    (s.notify selectorKey (.selector c)).2 = { s with router := { s.router with
      selector := s.router.selector.applyConfig
        ⟨(Strategy.parse c.strategy).1, c.healthyThreshold, c.fallbackToAll⟩ } } := by
  simp [notify, Selector.onSettings]

theorem notify_routing (s : RouterState) (c : RoutingSettings) :
    (s.notify routingKey (.routing c)).2 =
      match s.router.matcher.replace c.useDefaults (c.templates.getD []) (c.rules.getD []) with
      | .ok m => { s with router := { s.router with matcher := m } }
      | .error _ => s := by
  have hkey : (routingKey == selectorKey) = false := by decide
  simp only [notify, hkey, Bool.false_eq_true, if_false, beq_self_eq_true, if_true,
    Matcher.onSettings, bne_self_eq_false]
  cases s.router.matcher.replace c.useDefaults (c.templates.getD []) (c.rules.getD []) <;> rfl

theorem notify_sticky (s : RouterState) (c : StickySettings) :
    (s.notify stickyKey (.sticky c)).2 =
      { s with router := { s.router with sticky := StickyManager.new (some c) } } := by
  have hsel : (stickyKey == selectorKey) = false := by decide
  have hrt : (stickyKey == routingKey) = false := by decide
  simp [notify, hsel, hrt, Router.onSettings]

/-- The live modules follow the stored settings: the selector's configuration is the one the
stored selector settings give, the sticky sessions are new ones of the stored sticky settings, and
the matcher's rules are the ones the stored routing settings build, when they name only known
templates. -/
structure FollowsStore (s : RouterState) : Prop where
  selector : s.router.selector.config = ⟨(Strategy.parse s.settings.current.selector.strategy).1,
    s.settings.current.selector.healthyThreshold, s.settings.current.selector.fallbackToAll⟩
  sticky : s.router.sticky = StickyManager.new (some s.settings.current.sticky)
  matcher : s.settings.current.routing.KnownTemplates →
    s.router.matcher.FollowsRouting s.settings.current.routing

/-- An update keeps the live modules following the store: a refused one changes nothing, and a
stored one hands the module its new settings, which the selector and the sticky sessions take and
the matcher takes when it knows their templates. -/
theorem FollowsStore.update {s : RouterState} (h : FollowsStore s) (module text : String) :
    FollowsStore (s.updateSettings module text).2 := by
  cases hu : s.settings.update module text with
  | error f =>
    rw [updateSettings_of_refused hu]
    exact h
  | ok out =>
    obtain ⟨p, store⟩ := out
    rw [updateSettings_of_stored hu]
    rcases SettingsStore.readModule_cases (SettingsStore.readModule_of_update hu) with
      ⟨rfl, c, rfl, hcur⟩ | ⟨rfl, c, rfl, hcur⟩ | ⟨rfl, c, rfl, hcur⟩
    case inl =>
      rw [notify_selector]
      refine ⟨by simp [hcur, Selector.applyConfig], ?_, ?_⟩
      · simpa [hcur, StickyManager.new_copy] using h.sticky
      · simpa [hcur, Matcher.followsRouting_copy, RoutingSettings.knownTemplates_copy] using h.matcher
    case inr.inl =>
      rw [notify_routing]
      split
      · rename_i m hm
        refine ⟨by simpa [hcur] using h.selector, by simpa [hcur, StickyManager.new_copy] using h.sticky,
          fun _ => ?_⟩
        simpa [hcur] using Matcher.followsRouting_of_replace hm
      · -- refused routing settings stay stored, but name an unknown template
        rename_i e hm
        refine ⟨by simpa [hcur] using h.selector, by simpa [hcur, StickyManager.new_copy] using h.sticky,
          fun hk => ?_⟩
        have hknown : c.KnownTemplates := by simpa [hcur] using hk
        obtain ⟨m', hm'⟩ := (Matcher.replace_ok_iff s.router.matcher c.useDefaults
          (c.templates.getD []) (c.rules.getD [])).mpr hknown
        simp [hm'] at hm
    case inr.inr =>
      rw [notify_sticky]
      refine ⟨by simpa [hcur] using h.selector, by simp [hcur], ?_⟩
      simpa [hcur, Matcher.followsRouting_copy, RoutingSettings.knownTemplates_copy] using h.matcher

theorem assemble_ok {store : SettingsStore} {checker : Health.Checker} {selector : SelectorConfig}
    {cacheSize : Int} {ingress : String} {clock : Instant} {s : RouterState}
    (h : assemble store checker selector cacheSize ingress clock = .ok s) :
    s.settings = store ∧ FollowsStore s ∧ s.router.matcher.FollowsRouting s.settings.current.routing := by
  unfold assemble at h
  simp only [except_bind_ok, except_mapError_ok, pure, Except.pure, Except.ok.injEq] at h
  obtain ⟨m, hm, rfl⟩ := h
  simp only [Matcher.onSettings, bne_self_eq_false, Bool.false_eq_true, if_false] at hm
  have hfollows := Matcher.followsRouting_of_replace hm
  exact ⟨rfl, ⟨by simp [Selector.applyConfig, Selector.new], rfl, fun _ => hfollows⟩, hfollows⟩

theorem assemble_ok_iff (store : SettingsStore) (checker : Health.Checker) (selector : SelectorConfig)
    (cacheSize : Int) (ingress : String) (clock : Instant) :
    (∃ s, assemble store checker selector cacheSize ingress clock = .ok s) ↔
      store.current.routing.KnownTemplates := by
  constructor
  · rintro ⟨s, hs⟩
    obtain ⟨hstore, -, hfollows⟩ := assemble_ok hs
    exact hstore ▸ hfollows.known
  · intro hk
    obtain ⟨m, hm⟩ := (Matcher.replace_ok_iff (Matcher.new cacheSize) store.current.routing.useDefaults
      (store.current.routing.templates.getD []) (store.current.routing.rules.getD [])).mpr hk
    unfold assemble
    simp only [except_bind_ok, except_mapError_ok, Matcher.onSettings, bne_self_eq_false,
      Bool.false_eq_true, if_false, hm, pure, Except.pure, Except.ok.injEq]
    exact ⟨_, m, rfl, rfl⟩

/-- The router's states from its assembly through any sequence of settings updates, each
stored or refused, taken by its module or not. -/
inductive SettingsRun : RouterState → Prop
  | start {store : SettingsStore} {checker : Health.Checker} {selector : SelectorConfig}
      {cacheSize : Int} {ingress : String} {clock : Instant} {s : RouterState} :
      assemble store checker selector cacheSize ingress clock = .ok s → SettingsRun s
  | update {s : RouterState} (module text : String) :
      SettingsRun s → SettingsRun (s.updateSettings module text).2

theorem SettingsRun.followsStore {s : RouterState} (h : SettingsRun s) : FollowsStore s := by
  induction h with
  | start h => exact (assemble_ok h).2.1
  | update module text _ ih => exact ih.update module text

/-- How the live modules stand to the stored settings: the selector's configuration and the
sticky sessions are the ones the stored settings give; the matcher's rules are the ones the
stored routing settings build exactly when these name only known templates, and exactly then a
router can be assembled from the store again. -/
structure StoreAgreement (s : RouterState) : Prop where
  selector : s.router.selector.config = ⟨(Strategy.parse s.settings.current.selector.strategy).1,
    s.settings.current.selector.healthyThreshold, s.settings.current.selector.fallbackToAll⟩
  sticky : s.router.sticky = StickyManager.new (some s.settings.current.sticky)
  matcher : s.router.matcher.FollowsRouting s.settings.current.routing ↔
    s.settings.current.routing.KnownTemplates
  restart : ∀ (checker : Health.Checker) (selector : SelectorConfig) (cacheSize : Int)
    (ingress : String) (clock : Instant),
    (∃ s', assemble s.settings checker selector cacheSize ingress clock = .ok s') ↔
      s.settings.current.routing.KnownTemplates

/-- After any sequence of settings updates the live modules stand to the stored settings as
`StoreAgreement` says. -/
theorem stored_settings_agreement {s : RouterState} (h : SettingsRun s) : StoreAgreement s :=
  have hf := h.followsStore
  ⟨hf.selector, hf.sticky, ⟨Matcher.FollowsRouting.known, hf.matcher⟩,
    fun checker selector cacheSize ingress clock =>
      assemble_ok_iff s.settings checker selector cacheSize ingress clock⟩

def quietSettings : RuntimeSettings :=
  ⟨SelectorSettings.builtin, ⟨false, some [], some []⟩, StickySettings.builtin⟩

def quietChecker : Health.Checker :=
  { strategy := .basic, probe := {}, tracker := {}, schedule := none }

def quietSelector : SelectorConfig := ⟨Strategy.roundRobin, 0.5, false⟩

def quietState : RouterState where
  settings := SettingsStore.inMemory (some quietSettings)
  checker := quietChecker
  clock := Instant.zero
  statusSince := Instant.zero
  router := {
    matcher := { Matcher.new 0 with cache := (Matcher.new 0).cache.clear }
    selector := (Selector.new quietSelector).applyConfig
      ⟨(Strategy.parse quietSettings.selector.strategy).1, quietSettings.selector.healthyThreshold,
        quietSettings.selector.fallbackToAll⟩
    ingress := ""
    sticky := StickyManager.new (some quietSettings.sticky) }

theorem quietState_assembled :
    assemble (SettingsStore.inMemory (some quietSettings)) quietChecker quietSelector 0 ""
      Instant.zero = .ok quietState := rfl

def unknownTemplateText : String :=
  "\x7b\"use_defaults\":false,\"templates\":[\"nope\"],\"rules\":[\"example.org\"]\x7d"

def unknownTemplateRouting : RoutingSettings := ⟨false, some ["nope"], some ["example.org"]⟩

theorem update_unknownTemplateText :
    quietState.settings.update routingKey unknownTemplateText =
      .ok (.routing unknownTemplateRouting,
        { current := { quietSettings.copy with routing := unknownTemplateRouting } }) := by
  have hparse : Json.parse unknownTemplateText = .ok (.object [("use_defaults", .bool false),
      ("templates", .array [.string "nope"]), ("rules", .array [.string "example.org"])]) := by
    unfold unknownTemplateText
    cbv
  have hrs : routingKey ≠ selectorKey := by decide
  simp [quietState, SettingsStore.update, SettingsStore.readModule, SettingsStore.inMemory, hparse, hrs]
  rfl

theorem replace_unknownTemplateRouting (m : Matcher) :
    m.replace false ["nope"] ["example.org"] = .error (.unknownTemplate "nope") := by
  have hnope : template? "nope" = none := by decide
  simp [Matcher.replace_eq, Matcher.ruleTexts, Matcher.ruleTexts.gather, hnope, Except.map]

/-- After the router takes in routing settings naming an unknown template, the live modules still
stand to the store as `StoreAgreement` says. -/
theorem stored_settings_agreement_after_unknown_template :
    SettingsRun (quietState.updateSettings routingKey unknownTemplateText).2 ∧
      StoreAgreement (quietState.updateSettings routingKey unknownTemplateText).2 :=
  have h : SettingsRun (quietState.updateSettings routingKey unknownTemplateText).2 :=
    .update _ _ (.start quietState_assembled)
  ⟨h, stored_settings_agreement h⟩

/-- Routing settings naming an unknown template are stored although the matcher refuses them: the
update reports the refusal, the router keeps its rules, and a router can no longer be assembled
from the store. -/
theorem unknown_template_stored_not_applied :
    (quietState.updateSettings routingKey unknownTemplateText).1 =
      .notTaken "unknown rule template \"nope\"" ∧
    (quietState.updateSettings routingKey unknownTemplateText).2.settings.current.routing =
      unknownTemplateRouting ∧
    (quietState.updateSettings routingKey unknownTemplateText).2.router = quietState.router ∧
    assemble (quietState.updateSettings routingKey unknownTemplateText).2.settings quietChecker
      quietSelector 0 "" Instant.zero =
      .error "failed to apply routing settings: unknown rule template \"nope\"" := by
  have hmessage : (MatcherError.unknownTemplate "nope").message = "unknown rule template \"nope\"" := by
    decide
  have hrs : routingKey ≠ selectorKey := by decide
  have hupdate : quietState.updateSettings routingKey unknownTemplateText =
      (.notTaken "unknown rule template \"nope\"", { quietState with settings :=
        { current := { quietSettings.copy with routing := unknownTemplateRouting } } }) := by
    unfold updateSettings
    rw [update_unknownTemplateText]
    simp [notify, hrs, Matcher.onSettings, unknownTemplateRouting, replace_unknownTemplateRouting,
      hmessage]
  rw [hupdate]
  refine ⟨rfl, rfl, rfl, ?_⟩
  simp [assemble, Matcher.onSettings, unknownTemplateRouting, replace_unknownTemplateRouting,
    hmessage, bind, Except.bind]

end RouterState

end Console

end ProxyRouter
