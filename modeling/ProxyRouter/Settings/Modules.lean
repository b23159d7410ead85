/-!
Runtime settings: three modules that can be changed while the router runs. The selector module
names the selection strategy, the score above which a proxy counts as healthy, and whether to
fall back to all proxies when none is healthy; the routing module says whether the built-in
rules are in force, which rule templates are applied and which further rules; the sticky
module gives the session mode, its lifetime in seconds and the hosts it applies to. A list
may be absent, which is written `null`.
-/
namespace ProxyRouter.Settings

/-- Settings of proxy selection. -/
structure SelectorSettings where
  strategy : String
  healthyThreshold : Float
  fallbackToAll : Bool
deriving Inhabited, Repr

/-- Settings of the routing rules. -/
structure RoutingSettings where
  useDefaults : Bool
  templates : Option (List String)
  rules : Option (List String)
deriving Inhabited, Repr

/-- Settings of sticky sessions. -/
structure StickySettings where
  mode : String
  ttl : Int
  rules : Option (List String)
deriving Inhabited, Repr

/-- All runtime settings. -/
structure RuntimeSettings where
  selector : SelectorSettings
  routing : RoutingSettings
  sticky : StickySettings
deriving Inhabited, Repr

def SelectorSettings.builtin : SelectorSettings := ⟨"health_weighted", 0.1, true⟩
def RoutingSettings.builtin : RoutingSettings := ⟨true, some [], some []⟩
def StickySettings.builtin : StickySettings := ⟨"disabled", 300, some []⟩

def RuntimeSettings.builtin : RuntimeSettings :=
  ⟨SelectorSettings.builtin, RoutingSettings.builtin, StickySettings.builtin⟩

/-- The settings with every absent list made empty, as a copy of them is taken before an
update. -/
def RuntimeSettings.copy (s : RuntimeSettings) : RuntimeSettings :=
  { s with
    routing := { s.routing with templates := some (s.routing.templates.getD []),
                                rules := some (s.routing.rules.getD []) }
    sticky := { s.sticky with rules := some (s.sticky.rules.getD []) } }

def selectorKey : String := "selector"
def routingKey : String := "routing"
def stickyKey : String := "sticky"

/-- What a module receives when its settings change: the new settings of one module, or a
value of no module's type. -/
inductive Payload where
  | selector (s : SelectorSettings)
  | routing (r : RoutingSettings)
  | sticky (s : StickySettings)
  | unrecognized
deriving Inhabited, Repr

end ProxyRouter.Settings
