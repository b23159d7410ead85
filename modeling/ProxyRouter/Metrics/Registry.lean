import ProxyRouter.Pool.Proxy
/-!
The service's metrics: counters of switches, probes, selections, routing decisions, cache
lookups and roster refreshes by label; gauges of each proxy's latest score and health state and
of the roster's size and healthy count; and a histogram of probe latencies in seconds.
-/
namespace ProxyRouter.Metrics

abbrev Tally := List (String × Nat)

def Tally.bump (t : Tally) (label : String) : Tally :=
  if t.any (·.1 == label) then t.map fun (l, n) => if l == label then (l, n + 1) else (l, n)
  else t ++ [(label, 1)]

abbrev Gauges := List (String × Float)

/-- Set the value under a label value. -/
def Gauges.put (g : Gauges) (label : String) (v : Float) : Gauges :=
  if g.any (·.1 == label) then g.map fun (l, x) => if l == label then (l, v) else (l, x)
  else g ++ [(label, v)]

def Gauges.drop (g : Gauges) (label : String) : Gauges := g.filter (·.1 != label)

/-- Observations sorted into buckets by upper bound. `counts` has one entry per bound: the
observations at most that bound and above the bound before; larger ones are only in `count`. -/
structure Histogram where
  bounds : List Float
  counts : List Nat
  count : Nat := 0
  sum : Float := 0
deriving Repr, Inhabited

def Histogram.empty (bounds : List Float) : Histogram :=
  { bounds := bounds, counts := bounds.map fun _ => 0 }

def Histogram.observe (h : Histogram) (v : Float) : Histogram :=
  let slot := h.bounds.findIdx? (v ≤ ·)
  { h with
    counts := h.counts.mapIdx fun i n => if slot == some i then n + 1 else n
    count := h.count + 1
    sum := h.sum + v }

def Histogram.cumulative (h : Histogram) : List Nat :=
  (h.counts.foldl (fun (acc : List Nat × Nat) n => (acc.1 ++ [acc.2 + n], acc.2 + n)) ([], 0)).1

def latencyBounds : List Float := [0.1, 0.25, 0.5, 1, 2, 5, 10, 20, 30]

def outcome (ok : Bool) : String := if ok then "success" else "failure"

/-- All metrics of the service. -/
structure MetricsRegistry where
  switches : Tally := []
  healthChecks : Tally := []
  probeLatency : Histogram := Histogram.empty latencyBounds
  proxyScore : Gauges := []
  proxyState : Gauges := []
  activeProxies : Float := 0
  healthyProxies : Float := 0
  selections : Tally := []
  routeDecisions : Tally := []
  cacheLookups : Tally := []
  rosterRefreshes : Tally := []
deriving Repr, Inhabited

namespace MetricsRegistry

def observeSwitch (r : MetricsRegistry) (ok : Bool) : MetricsRegistry :=
  { r with switches := r.switches.bump (outcome ok) }

def observeSample (r : MetricsRegistry) (name : String) (s : Pool.HealthSample) (state : Int) :
    MetricsRegistry :=
  { r with
    healthChecks := r.healthChecks.bump (outcome s.success)
    probeLatency := r.probeLatency.observe (Float.ofInt s.latencyMs / 1000)
    proxyScore := r.proxyScore.put name s.overallScore
    proxyState := r.proxyState.put name (Float.ofInt state) }

def setRoster (r : MetricsRegistry) (current removed : List String) : MetricsRegistry :=
  { r with
    activeProxies := current.length.toFloat
    proxyScore := removed.foldl Gauges.drop r.proxyScore
    proxyState := removed.foldl Gauges.drop r.proxyState }

def setHealthy (r : MetricsRegistry) (n : Int) : MetricsRegistry :=
  { r with healthyProxies := Float.ofInt n }

def observeSelection (r : MetricsRegistry) (strategy : String) : MetricsRegistry :=
  { r with selections := r.selections.bump strategy }

def observeRoute (r : MetricsRegistry) (cacheHit useProxy : Bool) : MetricsRegistry :=
  { r with
    routeDecisions := r.routeDecisions.bump (if useProxy then "proxy" else "direct")
    cacheLookups := r.cacheLookups.bump (if cacheHit then "hit" else "miss") }

def observeRosterRefresh (r : MetricsRegistry) (ok : Bool) (size : Int) : MetricsRegistry :=
  let r := { r with rosterRefreshes := r.rosterRefreshes.bump (outcome ok) }
  if ok then { r with activeProxies := Float.ofInt size } else r

end MetricsRegistry

end ProxyRouter.Metrics
