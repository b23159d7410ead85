import ProxyRouter.Health.Checker
/-!
One check of a roster, with every order in which its probes may run and in which the request
may be given up.
-/
namespace ProxyRouter.Health

open Pool

/-- Where the check of one proxy of a roster stands. -/
inductive CheckPhase where
  /-- the limiter has not let it start -/
  | waiting
  /-- probing, holding a place of the limiter -/
  | probing
  /-- the probe returned `sample` and gave its place back; the request is not yet looked at -/
  | probed (sample : HealthSample)
  /-- the request was still on: the sample goes on to the histories, the observers and the
  results -/
  | passed (sample : HealthSample)
  /-- recorded when adaptive, and handed to the first `told` observers -/
  | telling (sample : HealthSample) (told : Nat)
  /-- the sample is among the results -/
  | done (sample : HealthSample)
  /-- the request was given up before the limiter let it start or before its sample was looked
  at -/
  | dropped

namespace CheckPhase

def running : CheckPhase → Bool
  | .probing => true
  | _ => false

def ended : CheckPhase → Bool
  | .done _ | .dropped => true
  | _ => false

end CheckPhase

/-- A check of a roster under way: whether the checker is adaptive, whether the request was given
up, the histories, the check of each proxy in roster order, and what went out, in order: the
samples recorded in the histories, the samples handed to the observers (each with the observer's
place among them), and the results by name. -/
structure CheckRun where
  adaptive : Bool
  cancelled : Bool
  tracker : Tracker
  checks : List (ProxyIdentity × CheckPhase)
  recorded : List (String × HealthSample) := []
  told : List (Nat × String × HealthSample) := []
  results : List (String × HealthSample) := []

namespace CheckRun

/-- The start of a check of `ids` by a checker of the given strategy with the histories `t`,
with the request given up already or not. -/
def begin (strategy : HealthStrategy) (t : Tracker) (ids : List ProxyIdentity)
    (cancelled : Bool) : CheckRun :=
  { adaptive := strategy == .adaptive, cancelled := cancelled, tracker := t,
    checks := ids.map (·, .waiting) }

def running (r : CheckRun) : Nat := r.checks.countP (·.2.running)

def ended (r : CheckRun) : Bool := r.checks.all (·.2.ended)

def seenBy (r : CheckRun) (k : Nat) : List (String × HealthSample) :=
  r.told.filterMap fun e => if e.1 = k then some e.2 else none

/-- The check at `i` records its sample at `now`, when the checker is adaptive, before handing it
out. -/
def record (r : CheckRun) (i : Nat) (id : ProxyIdentity) (sample : HealthSample) (now : Instant) :
    CheckRun :=
  { r with checks := r.checks.set i (id, .telling sample 0),
           tracker := if r.adaptive then (r.tracker.record now id.name sample).2 else r.tracker,
           recorded := if r.adaptive then r.recorded ++ [(id.name, sample)] else r.recorded }

/-- One step of a check of a roster under a limiter of `limit` places, with `observers`
observers. -/
inductive Step (limit observers : Nat) : CheckRun → CheckRun → Prop
  /-- the request is given up -/
  | cancel (r : CheckRun) : Step limit observers r { r with cancelled := true }
  /-- the limiter lets a waiting check start while the request is on -/
  | start (r : CheckRun) (i : Nat) (id : ProxyIdentity) :
      r.checks[i]? = some (id, .waiting) → r.cancelled = false → r.running < limit →
      Step limit observers r { r with checks := r.checks.set i (id, .probing) }
  /-- a waiting check finds the request given up -/
  | refuse (r : CheckRun) (i : Nat) (id : ProxyIdentity) :
      r.checks[i]? = some (id, .waiting) → r.cancelled = true →
      Step limit observers r { r with checks := r.checks.set i (id, .dropped) }
  /-- a probe returns a sample and gives its place back -/
  | probe (r : CheckRun) (i : Nat) (id : ProxyIdentity) (sample : HealthSample) :
      r.checks[i]? = some (id, .probing) →
      Step limit observers r { r with checks := r.checks.set i (id, .probed sample) }
  /-- a probed check finds the request given up -/
  | discard (r : CheckRun) (i : Nat) (id : ProxyIdentity) (sample : HealthSample) :
      r.checks[i]? = some (id, .probed sample) → r.cancelled = true →
      Step limit observers r { r with checks := r.checks.set i (id, .dropped) }
  /-- a probed check finds the request still on -/
  | pass (r : CheckRun) (i : Nat) (id : ProxyIdentity) (sample : HealthSample) :
      r.checks[i]? = some (id, .probed sample) → r.cancelled = false →
      Step limit observers r { r with checks := r.checks.set i (id, .passed sample) }
  /-- the sample is recorded at `now` in the histories, when adaptive -/
  | record (r : CheckRun) (i : Nat) (id : ProxyIdentity) (sample : HealthSample) (now : Instant) :
      r.checks[i]? = some (id, .passed sample) → Step limit observers r (r.record i id sample now)
  /-- the sample is handed to the next observer -/
  | tell (r : CheckRun) (i : Nat) (id : ProxyIdentity) (sample : HealthSample) (k : Nat) :
      r.checks[i]? = some (id, .telling sample k) → k < observers →
      Step limit observers r { r with checks := r.checks.set i (id, .telling sample (k + 1)),
                                      told := r.told ++ [(k, id.name, sample)] }
  /-- every observer has the sample, which goes among the results under its proxy's name -/
  | store (r : CheckRun) (i : Nat) (id : ProxyIdentity) (sample : HealthSample) :
      r.checks[i]? = some (id, .telling sample observers) →
      Step limit observers r { r with checks := r.checks.set i (id, .done sample),
                                      results := resultMap.insertResult (id.name, sample) r.results }

end CheckRun

end ProxyRouter.Health
