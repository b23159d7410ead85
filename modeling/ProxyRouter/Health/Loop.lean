import ProxyRouter.Health.Schedule
/-!
The checking loop around the schedule, with every interleaving its concurrent parts allow.
-/
namespace ProxyRouter.Health

/-- The loop's state: the schedule, the proxies whose probes the running tick started and that
have not ended, whether a tick runs and whether the loop's context is cancelled. -/
structure CheckLoop where
  schedule : Schedule
  probing : List String := []
  ticking : Bool := false
  cancelled : Bool := false
deriving Repr

namespace CheckLoop

/-- One step of the loop, of one of its probes or of a caller. -/
inductive Step : CheckLoop → CheckLoop → Prop
  /-- a caller gives the schedule a roster; `grade` grades the newcomers -/
  | sync (l : CheckLoop) (now : Instant) (grade : String → HealthState)
      (ids : List Pool.ProxyIdentity) :
      Step l { l with schedule := l.schedule.sync now grade ids }
  /-- a proxy's next check is put one interval of its grade after now -/
  | reschedule (l : CheckLoop) (now : Instant) (grade : HealthState) (name : String) :
      Step l { l with schedule := l.schedule.reschedule now grade name }
  /-- a tick takes out the checks due by now and starts the probes of their proxies -/
  | tick (l : CheckLoop) (now : Instant) : l.ticking = false →
      Step l { l with schedule := (l.schedule.popDue now).2,
                      probing := (l.schedule.popDue now).1.map (·.name), ticking := true }
  /-- a probe ends, normally or by a panic, and reschedules its proxy -/
  | finish (l : CheckLoop) (now : Instant) (grade : HealthState) (name : String) :
      name ∈ l.probing →
      Step l { l with schedule := l.schedule.reschedule now grade name,
                      probing := l.probing.erase name }
  /-- under a cancelled context a probe ends without rescheduling -/
  | abandon (l : CheckLoop) (name : String) : name ∈ l.probing → l.cancelled = true →
      Step l { l with probing := l.probing.erase name }
  /-- the tick ends once all its probes have -/
  | endTick (l : CheckLoop) : l.probing = [] → Step l { l with ticking := false }
  /-- the loop's context is cancelled -/
  | cancel (l : CheckLoop) : Step l { l with cancelled := true }

/-- The states the loop reaches from a new schedule. -/
inductive Reachable : CheckLoop → Prop
  | start (config : SchedulerConfig) : Reachable { schedule := { config := config } }
  | step {l l' : CheckLoop} : Reachable l → Step l l' → Reachable l'

end CheckLoop

end ProxyRouter.Health
