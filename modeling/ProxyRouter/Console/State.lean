import ProxyRouter.Settings.Store
import ProxyRouter.Selection.Dispatcher
import ProxyRouter.Health.Checker
import ProxyRouter.Metrics.Registry
import ProxyRouter.Config.Service
/-!
The router as the management console sees it: the runtime settings, the routing rules,
selector, sticky sessions and recent hosts, the health checker and the metrics, on one clock.
-/
namespace ProxyRouter.Console

open Settings Selection Health Pool

/-- The shared state of the running router. -/
structure RouterState where
  settings : SettingsStore
  router : Router
  checker : Checker
  metrics : Metrics.MetricsRegistry := {}
  clock : Instant
  access : Config.ConsoleOptions := {}
  status : String := "Initializing..."
  statusSince : Instant

/-- What an update of runtime settings came to. -/
inductive SettingsOutcome where
  /-- stored and taken in by every subscriber -/
  | applied
  /-- refused: nothing changed -/
  | refused (fault : UpdateFault)
  /-- stored, but a subscriber failed with this text -/
  | notTaken (message : String)

namespace RouterState

/-- Assemble the router from stored settings: the selector, the matcher with room for
`cacheSize` decisions and the sticky sessions take the stored settings of their module. -/
def assemble (store : SettingsStore) (checker : Checker) (selector : SelectorConfig)
    (cacheSize : Int) (ingress : String) (clock : Instant) : Except String RouterState := do
  let initial := store.current
  let sel := (Selector.new selector).applyConfig
    ⟨(Strategy.parse initial.selector.strategy).1, initial.selector.healthyThreshold,
      initial.selector.fallbackToAll⟩
  let matcher ← (Routing.Matcher.new cacheSize).onSettings routingKey (.routing initial.routing)
    |>.mapError fun e => "failed to apply routing settings: " ++ e.message
  let router : Router := {
    matcher := matcher, selector := sel, ingress := ingress,
    sticky := StickyManager.new (some initial.sticky) }
  return { settings := store, checker := checker, clock := clock, statusSince := clock, router := router }

def notify (s : RouterState) (module : String) (p : Payload) : Option String × RouterState :=
  if module == selectorKey then
    match s.router.selector.onSettings module p with
    | .ok sel => (none, { s with router := { s.router with selector := sel } })
    | .error e => (some e, s)
  else if module == routingKey then
    match s.router.matcher.onSettings module p with
    | .ok m => (none, { s with router := { s.router with matcher := m } })
    | .error e => (some e.message, s)
  else if module == stickyKey then
    match s.router.onSettings module p with
    | .ok r => (none, { s with router := r })
    | .error e => (some e, s)
  else (none, s)

def updateSettings (s : RouterState) (module text : String) : SettingsOutcome × RouterState :=
  match s.settings.update module text with
  | .error f => (.refused f, s)
  | .ok (p, store) =>
    match ({ s with settings := store } : RouterState).notify module p with
    | (none, s) => (.applied, s)
    | (some e, s) => (.notTaken e, s)


def updateAll (s : RouterState) (updates : List (String × String)) : List SettingsOutcome × RouterState :=
  updates.foldl (fun (acc, s) (m, t) => let (o, s) := s.updateSettings m t; (acc ++ [o], s)) ([], s)

def sharesHistory (s : RouterState) : Bool := s.checker.strategy == .adaptive

/-- Take in samples: the selector's health and, when shared, the histories. -/
def updateHealth (s : RouterState) (samples : List (String × HealthSample)) : RouterState :=
  let s := { s with router := { s.router with selector := s.router.selector.updateHealth s.clock samples } }
  if s.sharesHistory then
    { s with checker := { s.checker with tracker := s.checker.tracker.recordAll s.clock samples } }
  else s

def setRoster (s : RouterState) (ids : List ProxyIdentity) : RouterState :=
  { s with router := { s.router with selector := s.router.selector.setRoster s.clock ids } }

def observe (s : RouterState) (events : List RouterEvent) : RouterState :=
  { s with metrics := events.foldl (fun m e =>
      match e with
      | .route o => m.observeRoute o.cacheHit o.useProxy
      | .selected strategy _ => m.observeSelection strategy
      | .decided _ => m) s.metrics }

/-- Decide for a target, asking for a strategy by name (empty for the selector's own). -/
def route (s : RouterState) (target : Routing.Target) (strategy : String) :
    Except DispatchError Decision × RouterState :=
  let (result, events, router) := s.router.dispatch s.clock {} target strategy
  (result, ({ s with router := router } : RouterState).observe events)

/-- Choose a proxy with a strategy. -/
def select (s : RouterState) (strategy : Strategy) : Except SelectError ProxyIdentity × RouterState :=
  let (result, sel) := s.router.selector.select s.clock {} strategy
  let s := { s with router := { s.router with selector := sel } }
  match result with
  | .ok c =>
    (.ok c.proxy, if c.counted then s.observe [.selected strategy.name c.proxy.name] else s)
  | .error e => (.error e, s)

end RouterState

end ProxyRouter.Console
