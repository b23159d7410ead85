import ProxyRouter.Selection.Balancer
import ProxyRouter.Settings.Modules
/-!
The selector holds the roster, the latest health of each proxy and how often each was chosen,
and picks proxies with the balancer of a strategy.
-/
namespace ProxyRouter.Selection

open Pool

/-- The latest health of a proxy. -/
structure HealthEntry where
  score : Float := 0
  latencyMs : Int := 0
  lastChecked : Instant := Instant.zero
deriving Inhabited, Repr

/-- How the selector chooses. -/
structure SelectorConfig where
  strategy : Strategy
  healthyThreshold : Float
  fallbackToAll : Bool
deriving Inhabited, Repr

/-- Why the selector chose nothing. -/
inductive SelectError where
  /-- no proxy to choose from -/
  | noCandidate
  /-- no healthy proxy and no fallback -/
  | noHealthy
deriving DecidableEq, Repr

def SelectError.message : SelectError → String
  | .noCandidate => "no candidate proxy available"
  | .noHealthy => "no candidate proxy available: no healthy candidates"

/-- Counts of the roster's health and use. -/
structure SelectorStats where
  totalProxies : Nat := 0
  healthyProxies : Nat := 0
  failedProxies : Nat := 0
  healthRate : Float := 0
  totalUsage : Int := 0
  averageUsage : Float := 0
  mostUsed : String := ""
  mostUsedCount : Int := 0
  leastUsed : String := ""
  leastUsedCount : Int := 0
  strategy : String
  lastUpdate : Instant
  lastHealthCheck : Instant
deriving Repr

/-- A choice, and whether the balancer made it (then it was counted and announced). -/
structure Choice where
  proxy : ProxyIdentity
  counted : Bool
deriving Repr

/-- The selector's state. -/
structure Selector where
  roster : List ProxyIdentity := []
  health : List (String × HealthEntry) := []
  usage : List (String × UsageRecord) := []
  config : SelectorConfig
  rotation : UInt32 := 0
  lastUpdate : Instant := Instant.zero
  lastHealthCheck : Instant := Instant.zero
deriving Repr

namespace Selector

def new (config : SelectorConfig) : Selector := { config := config }

def named? {α : Type} (xs : List (String × α)) (name : String) : Option α :=
  (xs.find? (·.1 == name)).map (·.2)

def setNamed {α : Type} (xs : List (String × α)) (name : String) (v : α) : List (String × α) :=
  if xs.any (·.1 == name) then xs.map fun p => if p.1 == name then (name, v) else p
  else xs ++ [(name, v)]

def applyConfig (s : Selector) (config : SelectorConfig) : Selector :=
  { s with config := config, rotation := 0 }

def setRoster (s : Selector) (now : Instant) (ids : List ProxyIdentity) : Selector :=
  let keep := names ids
  { s with
    roster := ids, health := s.health.filter (keep.contains ·.1),
    usage := s.usage.filter (keep.contains ·.1), lastUpdate := now }

def lookup (s : Selector) (name : String) : Option ProxyIdentity :=
  s.roster.find? (·.name == name)

def stateOf (s : Selector) (id : ProxyIdentity) : ProxyState :=
  let h := (named? s.health id.name).getD {}
  { identity := id, score := h.score, latencyMs := h.latencyMs, lastChecked := h.lastChecked,
    healthy := h.score > s.config.healthyThreshold, usage := (named? s.usage id.name).getD {} }

def states (s : Selector) : List ProxyState := s.roster.map s.stateOf

def remaining (s : Selector) (exclude : List String) : List ProxyState :=
  s.states.filter fun st => !exclude.contains st.identity.name

def recordUsage (s : Selector) (now : Instant) (name : String) : Selector :=
  let u := (named? s.usage name).getD {}
  { s with usage := setNamed s.usage name ⟨u.selectionCount + 1, now⟩ }

/-- Choose a proxy with a strategy, leaving out the excluded names. -/
def selectExcluding (s : Selector) (now : Instant) (draw : Draw) (strategy : Strategy)
    (exclude : List String) : Except SelectError Choice × Selector :=
  let states := s.remaining exclude
  match states with
  | [] => (.error .noCandidate, s)
  | first :: _ =>
    match balance strategy s.config.fallbackToAll s.rotation draw states with
    | (.ok chosen, rotation) =>
      (.ok ⟨chosen.identity, true⟩, ({ s with rotation := rotation }).recordUsage now chosen.identity.name)
    | (.error .noHealthy, rotation) => (.error .noHealthy, { s with rotation := rotation })
    | (.error _, rotation) => (.ok ⟨first.identity, false⟩, { s with rotation := rotation })

/-- Choose a proxy with a strategy. -/
def select (s : Selector) (now : Instant) (draw : Draw) (strategy : Strategy) :
    Except SelectError Choice × Selector :=
  s.selectExcluding now draw strategy []

/-- Take in one sample of a proxy. -/
def merge (s : Selector) (name : String) (r : HealthSample) : Selector :=
  let h := (named? s.health name).getD {}
  let h := if !r.timestamp.isZero && r.timestamp < h.lastChecked then h
    else ⟨r.overallScore, r.latencyMs, r.timestamp⟩
  { s with health := setNamed s.health name h }

/-- Take in the samples of a health check. -/
def updateHealth (s : Selector) (now : Instant) (results : List (String × HealthSample)) : Selector :=
  { results.foldl (fun s r => s.merge r.1 r.2) s with lastHealthCheck := now }

def isHealthy (s : Selector) (name : String) : Bool :=
  s.roster.any (·.name == name) &&
    match named? s.health name with
    | some h => h.score > s.config.healthyThreshold
    | none => false

def mostUsedState? : List ProxyState → Option ProxyState
  | [] => none
  | st :: sts => some (sts.foldl (fun m t =>
      if t.usage.selectionCount > m.usage.selectionCount then t else m) st)

def statistics (s : Selector) : SelectorStats :=
  let states := s.states
  let base : SelectorStats := {
    totalProxies := states.length, strategy := s.config.strategy.name,
    lastUpdate := s.lastUpdate, lastHealthCheck := s.lastHealthCheck }
  match mostUsedState? states, leastUsedState? states with
  | some most, some least =>
    let healthy := (healthySubset states).length
    let total := (states.map (·.usage.selectionCount)).foldl (· + ·) 0
    { base with
      healthyProxies := healthy, failedProxies := states.length - healthy,
      healthRate := healthy.toFloat / states.length.toFloat, totalUsage := total,
      averageUsage := Float.ofInt total / states.length.toFloat,
      mostUsed := most.identity.name, mostUsedCount := most.usage.selectionCount,
      leastUsed := least.identity.name, leastUsedCount := least.usage.selectionCount }
  | _, _ => base

/-- React to a change of runtime settings: selector settings replace the configuration, an
unknown strategy name standing for `health_weighted`. -/
def onSettings (s : Selector) (module : String) (payload : Settings.Payload) :
    Except String Selector :=
  if module != Settings.selectorKey then .ok s
  else
    match payload with
    | .selector c =>
      .ok (s.applyConfig ⟨(Strategy.parse c.strategy).1, c.healthyThreshold, c.fallbackToAll⟩)
    | _ => .error "selector: received incorrect settings type"

end Selector

def SelectorConfig.toJson (c : SelectorConfig) : Json :=
  .object [("strategy", .string c.strategy.name), ("healthy_threshold", Json.float c.healthyThreshold),
    ("fallback_to_all", .bool c.fallbackToAll)]

def ProxyState.toJson (st : ProxyState) : Json :=
  .object [("identity", st.identity.toJson), ("score", Json.float st.score),
    ("latency_ms", .int st.latencyMs), ("last_checked", .time st.lastChecked),
    ("healthy", .bool st.healthy), ("usage", st.usage.toJson)]

def SelectorStats.toJson (st : SelectorStats) : Json :=
  .object ([("total_proxies", .int st.totalProxies), ("healthy_proxies", .int st.healthyProxies),
    ("failed_proxies", .int st.failedProxies), ("health_rate", Json.float st.healthRate),
    ("total_usage", .int st.totalUsage), ("average_usage", Json.float st.averageUsage)] ++
    (if st.mostUsed.isEmpty then [] else [("most_used_proxy", .string st.mostUsed)]) ++
    [("most_used_count", .int st.mostUsedCount)] ++
    (if st.leastUsed.isEmpty then [] else [("least_used_proxy", .string st.leastUsed)]) ++
    [("least_used_count", .int st.leastUsedCount), ("strategy", .string st.strategy),
    ("last_update", .time st.lastUpdate),
    ("last_health_check", .time st.lastHealthCheck)])

end ProxyRouter.Selection
