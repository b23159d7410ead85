import ProxyRouter.Health.Probe
import ProxyRouter.Health.Tracker
import ProxyRouter.Health.Schedule
import ProxyRouter.Text.CaseMap
import ProxyRouter.Text.Blank
import ProxyRouter.Text.Quote
/-!
The health checker. It probes whole rosters on demand and, with the adaptive strategy, keeps
score histories and can check proxies in the background on the adaptive schedule. Every sample
it takes is handed to the observers, in order; the caller applies them.
-/
namespace ProxyRouter.Health

open Pool

/-- How the checker works: on demand only, or with histories and background checks. -/
inductive HealthStrategy where
  | basic
  | adaptive
deriving DecidableEq, Repr, Inhabited

namespace HealthStrategy

def code : HealthStrategy → Nat
  | .basic => 0
  | .adaptive => 1

def name : HealthStrategy → String
  | .basic => "basic"
  | .adaptive => "adaptive"

/-- The strategy a name stands for, read without surrounding blanks and up to case; the empty
name stands for `adaptive`. -/
def parse (text : String) : Except String HealthStrategy :=
  match Text.lower (Text.trimBlank text) with
  | "basic" => .ok .basic
  | "adaptive" | "" => .ok .adaptive
  | _ => .error ("unknown health strategy " ++ Text.quote text)

end HealthStrategy

def backgroundUnsupported : String := "background checking requires the adaptive strategy"

/-- Counts over the samples of one check. Averages are over the successful samples. -/
structure Summary where
  total : Nat := 0
  healthy : Nat := 0
  failed : Nat := 0
  healthRate : Float := 0
  averageLatency : Float := 0
  averageSuccessRate : Float := 0
deriving Repr, Inhabited

def summarize (results : List (String × HealthSample)) : Summary :=
  if results.isEmpty then {}
  else
    let ok := results.filter (·.2.success)
    let latency := ok.foldl (fun acc r => acc + Float.ofInt r.2.latencyMs) 0
    let rate := ok.foldl (fun acc r => acc + r.2.successRate) 0
    let n := ok.length
    { total := results.length, healthy := n, failed := results.length - n,
      healthRate := n.toFloat / results.length.toFloat,
      averageLatency := if n > 0 then latency / n.toFloat else 0,
      averageSuccessRate := if n > 0 then rate / n.toFloat else 0 }

def healthy (ids : List ProxyIdentity) (results : List (String × HealthSample)) : List ProxyIdentity :=
  ids.filter fun id => match (results.find? (·.1 == id.name)) with
    | some r => r.2.success
    | none => false

def resultMap (observed : List (String × HealthSample)) : List (String × HealthSample) :=
  observed.foldl (fun acc o => insertResult o acc) []
where
  /-- Put a sample in its place by name. -/
  insertResult (o : String × HealthSample) : List (String × HealthSample) → List (String × HealthSample)
    | [] => [o]
    | r :: rs => if o.1 == r.1 then o :: rs else if o.1 < r.1 then o :: r :: rs else r :: insertResult o rs

/-- The checker's state. -/
structure Checker where
  strategy : HealthStrategy
  probe : ProbeConfig
  tracker : Tracker
  schedule : Option Schedule
deriving Repr

namespace Checker

def new (strategy : HealthStrategy) (probe : ProbeConfig) (tracker : TrackerConfig)
    (schedule : SchedulerConfig) : Checker :=
  { strategy := strategy, probe := probe.normalize, tracker := { config := tracker },
    schedule := if strategy == .adaptive then some { config := schedule } else none }

def recordSample (c : Checker) (now : Instant) (name : String) (sample : HealthSample) : Checker :=
  { c with tracker := (c.tracker.record now name sample).2 }

/-- Probe each proxy in turn, recording the samples in the histories when adaptive. -/
def probeEach {σ : Type} (c : Checker) (eng : ProbeEngine σ) (s : σ) (record : Bool) :
    List ProxyIdentity → List (String × HealthSample) × Checker × σ
  | [] => ([], c, s)
  | id :: ids =>
    let (sample, s) := Health.probe c.probe eng s id false
    let c := if record then c.recordSample (eng.clock s) id.name sample else c
    let (rest, c, s) := probeEach c eng s record ids
    ((id.name, sample) :: rest, c, s)

/-- Check a roster: the samples in the order taken. -/
def checkAll {σ : Type} (c : Checker) (eng : ProbeEngine σ) (s : σ) (ids : List ProxyIdentity)
    (cancelled : Bool) : List (String × HealthSample) × Checker × σ :=
  if cancelled then ([], c, s) else c.probeEach eng s (c.strategy == .adaptive) ids

/-- Probe the proxies that fell due on the schedule and schedule their next checks. -/
def tick {σ : Type} (c : Checker) (eng : ProbeEngine σ) (s : σ) :
    List (String × HealthSample) × Checker × σ :=
  match c.schedule with
  | none => ([], c, s)
  | some sched =>
    let (due, sched) := sched.popDue (eng.clock s)
    let (samples, c, s) := ({ c with schedule := some sched } : Checker).probeEach eng s true due
    let sched := samples.foldl (fun (sc : Schedule) r =>
      sc.reschedule (eng.clock s) (c.tracker.classify r.1) r.1) ((c.schedule).getD sched)
    (samples, { c with schedule := some sched }, s)

/-- Start checking in the background on the schedule; only the adaptive checker can. Starting
gives the schedule the roster and no more: the first tick comes at the next wake. Starting again
while running is a change of roster, which wakes a tick. -/
def startBackground {σ : Type} (c : Checker) (eng : ProbeEngine σ) (s : σ)
    (ids : List ProxyIdentity) : Except String (List (String × HealthSample) × Checker × σ) :=
  match c.schedule with
  | none => .error backgroundUnsupported
  | some sched =>
    let started : Checker :=
      { c with schedule := some { sched.sync (eng.clock s) c.tracker.classify ids with running := true } }
    .ok (if sched.running then started.tick eng s else ([], started, s))

def stopBackground (c : Checker) : Checker :=
  { c with schedule := c.schedule.map fun sc => { sc with running := false } }

def backgroundRunning (c : Checker) : Bool :=
  match c.schedule with
  | some sc => sc.running
  | none => false

/-- Take a new roster: forget the histories of proxies that left it and, when checking in the
background, give the schedule the roster. -/
def followRoster (c : Checker) (now : Instant) (ids : List ProxyIdentity) : Checker :=
  let c := { c with tracker := c.tracker.retain (names ids) }
  match c.schedule with
  | some sched =>
    if sched.running then { c with schedule := some (sched.sync now c.tracker.classify ids) } else c
  | none => c

def wake {σ : Type} (c : Checker) (eng : ProbeEngine σ) (s : σ) :
    List (String × HealthSample) × Checker × σ :=
  if c.backgroundRunning then c.tick eng s else ([], c, s)

def syncRoster {σ : Type} (c : Checker) (eng : ProbeEngine σ) (s : σ) (ids : List ProxyIdentity) :
    List (String × HealthSample) × Checker × σ :=
  (c.followRoster (eng.clock s) ids).wake eng s

def nextChecks (c : Checker) : List (String × Instant) :=
  match c.schedule with
  | some sc => sc.pending
  | none => []

def info (c : Checker) (name : String) : Option HistoryInfo × Bool :=
  if c.strategy == .adaptive then
    match c.tracker.info? name with
    | some i => (some i, true)
    | none => (some { recentScores := [] }, false)
  else (none, false)

def allInfo (c : Checker) : List (String × HistoryInfo) :=
  if c.strategy == .adaptive then c.tracker.all else []

end Checker

/-- `{"total_proxies", "healthy_proxies", "failed_proxies", "health_rate", "average_latency",
"average_success_rate"}`. -/
def Summary.toJson (s : Summary) : Json :=
  .object [("total_proxies", .int s.total), ("healthy_proxies", .int s.healthy),
    ("failed_proxies", .int s.failed), ("health_rate", Json.float s.healthRate),
    ("average_latency", Json.float s.averageLatency),
    ("average_success_rate", Json.float s.averageSuccessRate)]

def Summary.ofJson (j : Json) : Summary :=
  { total := (j.intAt "total_proxies").toNat, healthy := (j.intAt "healthy_proxies").toNat,
    failed := (j.intAt "failed_proxies").toNat, healthRate := j.floatAt "health_rate",
    averageLatency := j.floatAt "average_latency", averageSuccessRate := j.floatAt "average_success_rate" }

def infoJson : Option HistoryInfo → Json
  | some i => i.toJson
  | none => .object [("state", .string "unknown"), ("average_score", .number "0"),
    ("stability", .number "0"), ("check_count", .number "0"),
    ("last_check", .time Instant.zero), ("recent_scores", .null)]

end ProxyRouter.Health
