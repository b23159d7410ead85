import ProxyRouter.Pool.Proxy
import ProxyRouter.Time.Instant
/-!
Probing one proxy. A probe makes the proxy the engine's active one and then fetches each test
target through it; a fetch succeeds when it answers 200 or 204. The sample's rate is the share
of targets that succeeded, and the probe succeeds, with the rate as its score, when there are
targets and the rate reaches the least rate asked for. In the minimal mode the targets are tried
in order until one succeeds.
-/
namespace ProxyRouter.Health

open Pool

def switchFailed : String := "switch failed"

/-- How to probe. -/
structure ProbeConfig where
  targets : List String := []
  timeout : Duration := ⟨0⟩
  minSuccessRate : Float := 0
  stopOnFirstSuccess : Bool := false
deriving Repr, Inhabited

def ProbeConfig.normalize (c : ProbeConfig) : ProbeConfig :=
  { c with timeout := if c.timeout.nanos ≤ 0 then Duration.ofSeconds 15 else c.timeout }

/-- What fetching a target gave. -/
inductive FetchOutcome where
  /-- an HTTP status -/
  | status (code : Nat)
  /-- a failure with this text -/
  | failure (message : String)
  /-- the tester crashed with this text -/
  | crash (message : String)
deriving Repr

def FetchOutcome.succeeded : FetchOutcome → Bool
  | .status c => c == 200 || c == 204
  | _ => false

/-- An engine as a probe uses it, over its state `σ`. -/
structure ProbeEngine (σ : Type) where
  /-- make a proxy the active one; whether the engine accepted -/
  switch : σ → String → Bool × σ
  /-- fetch a target through the active proxy -/
  fetch : σ → String → FetchOutcome × σ
  /-- the engine's clock -/
  clock : σ → Instant
  /-- the real time has passed the deadline, an instant of the engine's clock -/
  expired : σ → Instant → Bool
  /-- the text a switch to a proxy crashes with, when it crashes; the state stays as it was -/
  switchCrash : σ → String → Option String := fun _ _ => none

def elapsedMillis (start stop : Instant) : Int := (stop.since start).toMillis

/-- Count the successes among all targets; a crash counts as a failure. -/
def fetchAll {σ : Type} (eng : ProbeEngine σ) (s : σ) : List String → Nat × σ
  | [] => (0, s)
  | t :: ts =>
    let (o, s) := eng.fetch s t
    let (n, s) := fetchAll eng s ts
    (if o.succeeded then n + 1 else n, s)

/-- Try targets until one succeeds or the deadline has passed: one success or none, or the text of
a crash. -/
def fetchUntilSuccess {σ : Type} (eng : ProbeEngine σ) (deadline : Instant) (s : σ) :
    List String → Except String Nat × σ
  | [] => (.ok 0, s)
  | t :: ts =>
    if eng.expired s deadline then (.ok 0, s)
    else match eng.fetch s t with
      | (.crash m, s) => (.error m, s)
      | (o, s) => if o.succeeded then (.ok 1, s) else fetchUntilSuccess eng deadline s ts

/-- The sample of a probe that reached the targets, with this many successes. -/
def rateSample (cfg : ProbeConfig) (start now : Instant) (successes : Nat) : HealthSample :=
  let total := cfg.targets.length
  let rate : Float := if total > 0 then successes.toFloat / total.toFloat else 0
  let base : HealthSample := {
    timestamp := now, latencyMs := elapsedMillis start now, connectivity := rate,
    successRate := rate }
  if total > 0 && rate ≥ cfg.minSuccessRate then { base with success := true, overallScore := rate }
  else { base with error := toString successes ++ "/" ++ toString total ++ " targets reachable" }

/-- Probe a proxy. A probe whose request was already given up waits for nothing and fails. -/
def probe {σ : Type} (cfg : ProbeConfig) (eng : ProbeEngine σ) (s : σ) (id : ProxyIdentity)
    (cancelled : Bool) : HealthSample × σ :=
  let start := eng.clock s
  if cancelled then (HealthSample.failed start 0 "engine gate: context canceled", s)
  else if let some m := eng.switchCrash s id.name then
    (HealthSample.failed (eng.clock s) (elapsedMillis start (eng.clock s)) ("probe panic: " ++ m), s)
  else
    let (accepted, s) := eng.switch s id.name
    if !accepted then
      (HealthSample.failed (eng.clock s) (elapsedMillis start (eng.clock s)) switchFailed, s)
    else if cfg.stopOnFirstSuccess then
      match fetchUntilSuccess eng (start.add cfg.timeout) s cfg.targets with
      | (.ok n, s) => (rateSample cfg start (eng.clock s) n, s)
      | (.error m, s) =>
        (HealthSample.failed (eng.clock s) (elapsedMillis start (eng.clock s)) ("probe panic: " ++ m), s)
    else
      let (n, s) := fetchAll eng s cfg.targets
      (rateSample cfg start (eng.clock s) n, s)

end ProxyRouter.Health
