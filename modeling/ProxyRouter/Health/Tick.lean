import ProxyRouter.Health.Schedule
import ProxyRouter.Health.Tracker
/-!
One tick of the background checks, with every order in which its probes may start and end.
-/
namespace ProxyRouter.Health

open Pool

/-- Where the probe of one proxy that a tick took out stands. -/
inductive ProbePhase where
  /-- the limiter has not let it start -/
  | waiting
  /-- running, with no sample yet -/
  | probing
  /-- its sample, recorded at `time`, is in the histories and with the observers, and its proxy
  is not yet back on the schedule -/
  | recorded (time : Instant) (sample : HealthSample)
  /-- ended: its proxy went back on the schedule at `time` with `grade`, after recording the
  sample it took, if it took one -/
  | requeued (time : Instant) (grade : HealthState) (taken : Option (Instant × HealthSample))

namespace ProbePhase

def started : ProbePhase → Bool
  | .waiting => false
  | _ => true

def running : ProbePhase → Bool
  | .probing | .recorded _ _ => true
  | _ => false

def ended : ProbePhase → Bool
  | .requeued _ _ _ => true
  | _ => false

end ProbePhase

/-- A tick under way: the schedule, the histories, the probes of the proxies taken out in the
order taken out, and the samples handed to the observers, in order. -/
structure TickRun where
  schedule : Schedule
  tracker : Tracker
  probes : List (ProxyIdentity × ProbePhase)
  results : List (String × HealthSample) := []

namespace TickRun

/-- The tick's start: the checks due by `now` taken out, with a probe waiting for each proxy of
the roster among them. -/
def begin (s : Schedule) (t : Tracker) (now : Instant) : TickRun :=
  { schedule := (s.popDue now).2, tracker := t, probes := (s.popDue now).1.map (·, .waiting) }

def running (r : TickRun) : Nat := r.probes.countP (·.2.running)

def ended (r : TickRun) : Bool := r.probes.all (·.2.ended)

/-- The probe at `i` puts its proxy back on the schedule with the grade the histories give it
now, after recording the sample `taken` if it took one. -/
def requeue (r : TickRun) (i : Nat) (id : ProxyIdentity) (now : Instant)
    (taken : Option (Instant × HealthSample)) : TickRun :=
  { r with schedule := r.schedule.reschedule now (r.tracker.classify id.name) id.name,
           probes := r.probes.set i (id, .requeued now (r.tracker.classify id.name) taken) }

/-- One step of a tick with a limiter of `limit` places. -/
inductive Step (limit : Nat) : TickRun → TickRun → Prop
  /-- the limiter lets the first probe that waits start -/
  | start (r : TickRun) (i : Nat) (id : ProxyIdentity) :
      r.probes[i]? = some (id, .waiting) → (∀ p ∈ r.probes.take i, p.2.started = true) →
      r.running < limit → Step limit r { r with probes := r.probes.set i (id, .probing) }
  /-- a probe ends with a sample, which is recorded at `now` and handed to the observers -/
  | record (r : TickRun) (i : Nat) (id : ProxyIdentity) (now : Instant)
      (sample : HealthSample) : r.probes[i]? = some (id, .probing) →
      Step limit r { r with tracker := (r.tracker.record now id.name sample).2,
                            probes := r.probes.set i (id, .recorded now sample),
                            results := r.results ++ [(id.name, sample)] }
  /-- a probe whose sample is recorded puts its proxy back -/
  | requeue (r : TickRun) (i : Nat) (id : ProxyIdentity) (time now : Instant)
      (sample : HealthSample) : r.probes[i]? = some (id, .recorded time sample) →
      Step limit r (r.requeue i id now (some (time, sample)))
  /-- a probe panics and puts its proxy back without a sample -/
  | panic (r : TickRun) (i : Nat) (id : ProxyIdentity) (now : Instant) :
      r.probes[i]? = some (id, .probing) → Step limit r (r.requeue i id now none)

end TickRun

end ProxyRouter.Health
