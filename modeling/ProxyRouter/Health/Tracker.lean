import ProxyRouter.Health.State
import ProxyRouter.Pool.Proxy
import ProxyRouter.Time.Instant
/-!
Score histories. For each proxy the tracker keeps the most recent scores, at most a window of
them and, when a maximum age is set, none older than that except the newest. From the window it
derives the mean score, a stability figure and a grade.
-/
namespace ProxyRouter.Health

open Pool

/-- The window of the tracker: how many scores and how old. A maximum age of zero or less means
no limit on age. -/
structure TrackerConfig where
  windowSize : Nat := 10
  maxAge : Duration := ⟨0⟩
deriving Repr

def TrackerConfig.ofRequest (windowSize : Int) (maxAge : Duration) : TrackerConfig :=
  { windowSize := if windowSize ≤ 0 then 10 else windowSize.toNat, maxAge := maxAge }

/-- A score and when it was taken. -/
structure ScoreEntry where
  time : Instant
  score : Float
deriving Repr

/-- The history of one proxy with the figures derived from it. -/
structure History where
  entries : List ScoreEntry := []
  checkCount : Nat := 0
  lastCheck : Instant := Instant.zero
  average : Float := 0
  stability : Float := 0
  state : HealthState := .unknown
deriving Repr

/-- A read-only summary of a history, with at most five recent scores. -/
structure HistoryInfo where
  state : HealthState := .unknown
  averageScore : Float := 0
  stability : Float := 0
  checkCount : Nat := 0
  lastCheck : Instant := Instant.zero
  recentScores : List Float := []
deriving Repr

def clampUnit (v : Float) : Float :=
  if v.isNaN || v < 0 then 0 else if v > 1 then 1 else v

def mean (scores : List Float) : Float :=
  if scores.isEmpty then 0 else scores.foldl (· + ·) 0 / scores.length.toFloat

def stabilityOf (scores : List Float) : Float :=
  if scores.length < 3 then 0.5
  else
    let recent := scores.drop (scores.length - 10)
    let m := mean recent
    if m == 0 then 0
    else
      let variance := recent.foldl (fun acc s => acc + (s - m) * (s - m)) 0 / recent.length.toFloat
      clampUnit (1 - variance.sqrt / m)

/-- The grade of a window of this many scores with this mean and stability. -/
def classify (samples : Nat) (avg stab : Float) : HealthState :=
  if samples == 0 then .unknown
  else if avg > 0.9 && stab > 0.8 then .excellent
  else if avg > 0.7 && stab > 0.6 then .good
  else if avg > 0.5 then .fair
  else if avg > 0.3 then .poor
  else .critical

namespace History

def scores (h : History) : List Float := h.entries.map (·.score)

def dropBefore (cutoff : Instant) : List ScoreEntry → List ScoreEntry
  | [] => []
  | [e] => [e]
  | e :: es => if e.time < cutoff then dropBefore cutoff es else e :: es

/-- The history with one more score taken at `time`, trimmed to the window as of `now`. -/
def add (cfg : TrackerConfig) (now : Instant) (h : History) (score : Float) (time : Instant) :
    History :=
  let entries := h.entries ++ [⟨time, clampUnit score⟩]
  let entries := entries.drop (entries.length - cfg.windowSize)
  let entries := if cfg.maxAge.nanos > 0 then dropBefore (now.add ⟨-cfg.maxAge.nanos⟩) entries
    else entries
  let scores := entries.map (·.score)
  let avg := mean scores
  let stab := stabilityOf scores
  { entries := entries, checkCount := h.checkCount + 1, lastCheck := time, average := avg,
    stability := stab, state := classify scores.length avg stab }

def info (h : History) : HistoryInfo :=
  let s := h.scores
  { state := h.state, averageScore := h.average, stability := h.stability,
    checkCount := h.checkCount, lastCheck := h.lastCheck, recentScores := s.drop (s.length - 5) }

end History

/-- The histories of all tracked proxies. -/
structure Tracker where
  config : TrackerConfig := {}
  histories : List (String × History) := []
deriving Repr

namespace Tracker

def history? (t : Tracker) (name : String) : Option History :=
  (t.histories.find? (·.1 == name)).map (·.2)

def setHistory (t : Tracker) (name : String) (h : History) : Tracker :=
  if t.histories.any (·.1 == name) then
    { t with histories := t.histories.map fun p => if p.1 == name then (name, h) else p }
  else { t with histories := t.histories ++ [(name, h)] }

def addAt (t : Tracker) (now : Instant) (name : String) (score : Float) (time : Instant) : Tracker :=
  t.setHistory name (((t.history? name).getD {}).add t.config now score time)

def addSample (t : Tracker) (now : Instant) (name : String) (score : Float) : Tracker :=
  t.addAt now name score now

/-- Add a probe's overall score, taken at the sample's time or now when that is unknown. A sample
not later than the last one recorded for the proxy is ignored, so that one sample reaching the
tracker by several paths counts once. -/
def record (t : Tracker) (now : Instant) (name : String) (s : HealthSample) : Bool × Tracker :=
  let time := if s.timestamp.isZero then now else s.timestamp
  match t.history? name with
  | some h => if time ≤ h.lastCheck then (false, t) else (true, t.addAt now name s.overallScore time)
  | none => (true, t.addAt now name s.overallScore time)

def recordAll (t : Tracker) (now : Instant) (samples : List (String × HealthSample)) : Tracker :=
  samples.foldl (fun t p => (t.record now p.1 p.2).2) t

/-- The grade of a proxy, `unknown` when it has no history. -/
def classify (t : Tracker) (name : String) : HealthState :=
  ((t.history? name).map (·.state)).getD .unknown

def averageScore (t : Tracker) (name : String) : Float :=
  ((t.history? name).map (·.average)).getD 0

def stability (t : Tracker) (name : String) : Float :=
  ((t.history? name).map (·.stability)).getD 0

def info? (t : Tracker) (name : String) : Option HistoryInfo :=
  (t.history? name).map History.info

def insertName (x : String) : List String → List String
  | [] => [x]
  | y :: ys => if x ≤ y then x :: y :: ys else y :: insertName x ys

def names (t : Tracker) : List String := t.histories.foldl (fun acc p => insertName p.1 acc) []

def all (t : Tracker) : List (String × HistoryInfo) :=
  t.names.filterMap fun n => (t.info? n).map (n, ·)

/-- Forget the proxies not named. -/
def retain (t : Tracker) (keep : List String) : Tracker :=
  { t with histories := t.histories.filter (keep.contains ·.1) }

end Tracker

def HistoryInfo.toJson (i : HistoryInfo) : Json :=
  .object [("state", .string i.state.name), ("average_score", Json.float i.averageScore),
    ("stability", Json.float i.stability), ("check_count", .int i.checkCount),
    ("last_check", .time i.lastCheck), ("recent_scores", .array (i.recentScores.map Json.float))]

def infoMap (infos : List (String × HistoryInfo)) : Json :=
  .object (infos.map fun p => (p.1, p.2.toJson))

end ProxyRouter.Health
