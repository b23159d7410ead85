import ProxyRouter.Metrics.Registry
import ProxyRouter.Decimal.Layout
/-!
The metrics as families of series, the text exposition format and the lookup of one value.
-/
namespace ProxyRouter.Metrics

def metricPrefix : String := "crawladapter_"

/-- What a family measures. -/
inductive MetricKind where
  | counter
  | gauge
  | histogram
deriving DecidableEq, Repr

def MetricKind.word : MetricKind → String
  | .counter => "counter"
  | .gauge => "gauge"
  | .histogram => "histogram"

/-- One series: its labels and value. -/
structure Series where
  labels : List (String × String)
  value : Float
deriving Repr

/-- The series of a family, or its histogram. -/
inductive FamilyBody where
  | series (s : List Series)
  | histogram (h : Histogram)
deriving Repr

/-- A family of metrics with a full name, a help text and a kind. -/
structure Family where
  name : String
  help : String
  kind : MetricKind
  body : FamilyBody
deriving Repr

def tallySeries (label : String) (t : Tally) : FamilyBody :=
  .series (t.map fun (v, n) => ⟨[(label, v)], n.toFloat⟩)

def gaugeSeries (label : String) (g : Gauges) : FamilyBody :=
  .series (g.map fun (v, x) => ⟨[(label, v)], x⟩)

def MetricsRegistry.families (r : MetricsRegistry) : List Family :=
  let fam (name help : String) (kind : MetricKind) (body : FamilyBody) : Family :=
    ⟨metricPrefix ++ name, help, kind, body⟩
  [fam "proxy_switches_total" "Active proxy switch attempts on the engine." .counter
      (tallySeries "result" r.switches),
    fam "health_checks_total" "Completed health probes." .counter (tallySeries "result" r.healthChecks),
    fam "probe_latency_seconds" "Wall time of a probe, from switch to last test." .histogram
      (.histogram r.probeLatency),
    fam "proxy_score" "Latest overall score per proxy." .gauge (gaugeSeries "proxy" r.proxyScore),
    fam "proxy_health_state" "Health classification per proxy (0 unknown .. 5 excellent)." .gauge
      (gaugeSeries "proxy" r.proxyState),
    fam "active_proxies" "Proxies in the current roster." .gauge (.series [⟨[], r.activeProxies⟩]),
    fam "healthy_proxies" "Proxies scoring above the healthy threshold." .gauge
      (.series [⟨[], r.healthyProxies⟩]),
    fam "proxy_selections_total" "Proxy selections by strategy." .counter
      (tallySeries "strategy" r.selections),
    fam "route_decisions_total" "Routing decisions by outcome." .counter
      (tallySeries "decision" r.routeDecisions),
    fam "decision_cache_lookups_total" "Decision cache lookups by result." .counter
      (tallySeries "result" r.cacheLookups),
    fam "roster_refreshes_total" "Roster refresh attempts." .counter
      (tallySeries "result" r.rosterRefreshes)]

def metricNumber (f : Float) : String :=
  if f == 1 then "1" else if f == 0 then "0" else if f == -1 then "-1"
  else Decimal.formatFloat .general f

def escapeLabelValue (s : String) : String :=
  String.ofList (s.toList.flatMap fun c =>
    match c with
    | '\\' => ['\\', '\\']
    | '"' => ['\\', '"']
    | '\n' => ['\\', 'n']
    | c => [c])

def escapeHelp (s : String) : String :=
  String.ofList (s.toList.flatMap fun c =>
    match c with
    | '\\' => ['\\', '\\']
    | '\n' => ['\\', 'n']
    | c => [c])

def sampleLine (name : String) (labels : List (String × String)) (value : Float) : String :=
  let labelText := if labels.isEmpty then ""
    else "\x7b" ++ ",".intercalate (labels.map fun (k, v) => k ++ "=\"" ++ escapeLabelValue v ++ "\"") ++ "\x7d"
  name ++ labelText ++ " " ++ metricNumber value

def labelsBefore : List (String × String) → List (String × String) → Bool
  | [], [] => false
  | [], _ :: _ => true
  | _ :: _, [] => false
  | (_, a) :: as, (_, b) :: bs => if a == b then labelsBefore as bs else a < b

def insertSeries (s : Series) : List Series → List Series
  | [] => [s]
  | t :: ts => if labelsBefore t.labels s.labels then t :: insertSeries s ts else s :: t :: ts

def insertFamily (f : Family) : List Family → List Family
  | [] => [f]
  | g :: gs => if g.name < f.name then g :: insertFamily f gs else f :: g :: gs

def familySamples (f : Family) : List String :=
  match f.body with
  | .series s => (s.foldl (fun acc x => insertSeries x acc) []).map fun x => sampleLine f.name x.labels x.value
  | .histogram h =>
    (h.bounds.zip h.cumulative).map (fun (b, n) => sampleLine (f.name ++ "_bucket") [("le", metricNumber b)] n.toFloat) ++
    [sampleLine (f.name ++ "_bucket") [("le", "+Inf")] h.count.toFloat,
      sampleLine (f.name ++ "_sum") [] h.sum,
      sampleLine (f.name ++ "_count") [] h.count.toFloat]

def MetricsRegistry.exposition (r : MetricsRegistry) : List String :=
  let sorted := r.families.foldl (fun acc f => insertFamily f acc) []
  sorted.flatMap fun f =>
    match familySamples f with
    | [] => []
    | lines => ["# HELP " ++ f.name ++ " " ++ escapeHelp f.help, "# TYPE " ++ f.name ++ " " ++ f.kind.word] ++ lines

/-- The value of the series of a metric (named without prefix) with exactly these label values;
for a histogram, its count. Zero when there is no such series. -/
def MetricsRegistry.value (r : MetricsRegistry) (name : String) (labels : List String) : Float :=
  match r.families.find? (·.name == metricPrefix ++ name) with
  | none => 0
  | some f =>
    match f.body with
    | .series s =>
      match s.find? (fun x => x.labels.map (·.2) == labels) with
      | some x => x.value
      | none => 0
    | .histogram h => if labels.isEmpty then h.count.toFloat else 0

end ProxyRouter.Metrics
