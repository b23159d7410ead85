import ProxyRouter.App.Server
/-!
The service's health monitoring with its probes in flight.
-/
namespace ProxyRouter.App

open Health Pool

def Service.mapChecker {ν : Type} (s : Service ν) (f : Checker → Checker) : Service ν :=
  { s with shared := { s.shared with checker := f s.shared.checker } }

/-- A probe that has begun and not ended: its proxy, and whether the schedule started it. -/
structure ProbeRun where
  proxy : ProxyIdentity
  scheduled : Bool
deriving Repr

/-- The service and the probes in flight. -/
structure Monitoring (ν : Type) where
  service : Service ν
  probes : List ProbeRun := []

/-- What happens next. -/
inductive MonitorEvent where
  /-- the background loop takes out the checks due now and begins their probes -/
  | tick
  /-- a check of the whole roster begins a probe of each proxy of the selector's roster -/
  | checkAll
  /-- the probe at this position among those in flight ends with a sample -/
  | finish (i : Nat) (sample : HealthSample)
  /-- the probe at this position ends without a sample, its context cancelled -/
  | abandon (i : Nat)
  /-- the roster changes -/
  | rosterChange (change : RosterChange)
  /-- the clock moves on to this instant -/
  | advance (now : Instant)

namespace Monitoring

variable {ν : Type}

/-- A probe's sample recorded in the histories when the schedule started the probe or the checker
is adaptive. -/
def recordProbe (c : Checker) (now : Instant) (run : ProbeRun) (sample : HealthSample) : Checker :=
  if run.scheduled || c.strategy == .adaptive then c.recordSample now run.proxy.name sample else c

def rescheduleProbe (c : Checker) (now : Instant) (run : ProbeRun) : Checker :=
  if run.scheduled then
    { c with schedule := c.schedule.map fun sc =>
        sc.reschedule now (c.tracker.classify run.proxy.name) run.proxy.name }
  else c

/-- A probe's sample taken in: recorded, taken in by the service, and for a scheduled probe its
proxy's next check put on the schedule. -/
def takeSample (s : Service ν) (run : ProbeRun) (sample : HealthSample) : Service ν :=
  let now := s.shared.clock
  ((s.mapChecker (recordProbe · now run sample)).onSample run.proxy.name sample).mapChecker
    (rescheduleProbe · now run)

def step (m : Monitoring ν) : MonitorEvent → Monitoring ν
  | .tick =>
    match m.service.shared.checker.schedule with
    | some sc =>
      if sc.running then
        let (due, sc) := sc.popDue m.service.shared.clock
        { service := m.service.mapChecker ({ · with schedule := some sc }),
          probes := m.probes ++ due.map fun id => ⟨id, true⟩ }
      else m
    | none => m
  | .checkAll =>
    { m with probes := m.probes ++ m.service.shared.router.selector.roster.map fun id => ⟨id, false⟩ }
  | .finish i sample =>
    match m.probes[i]? with
    | some run => { service := takeSample m.service run sample, probes := m.probes.eraseIdx i }
    | none => m
  | .abandon i => { m with probes := m.probes.eraseIdx i }
  | .rosterChange change => { m with service := m.service.followRoster change }
  | .advance now => { m with service := { m.service with shared := { m.service.shared with clock := now } } }

def run (m : Monitoring ν) (events : List MonitorEvent) : Monitoring ν := events.foldl step m

end Monitoring

end ProxyRouter.App
