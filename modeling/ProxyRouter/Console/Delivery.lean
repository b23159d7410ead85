import ProxyRouter.Console.State
/-!
Settings updates whose notifications are still on their way.
-/
namespace ProxyRouter.Settings

def RuntimeSettings.payload (s : RuntimeSettings) (module : String) : Payload :=
  if module == selectorKey then .selector s.selector
  else if module == routingKey then .routing s.routing
  else if module == stickyKey then .sticky s.sticky
  else .unrecognized

end ProxyRouter.Settings

namespace ProxyRouter.Console

open Settings

/-- The router, the notifications stored but not yet delivered (oldest first), and the settings
each module's subscriber was handed last. -/
structure Delivery where
  state : RouterState
  inFlight : List (String × Payload) := []
  handed : String → Option Payload

/-- What happens next in a run. -/
inductive DeliveryEvent where
  /-- an update of a module's settings from JSON text is stored, or refused -/
  | store (module text : String)
  /-- the notification at this position among those in flight reaches its subscriber -/
  | deliver (i : Nat)
deriving Repr

namespace Delivery

def start (s : RouterState) : Delivery :=
  { state := s, handed := fun m => some (s.settings.current.payload m) }

def receive (d : Delivery) (module : String) (p : Payload) : Delivery :=
  { d with state := (d.state.notify module p).2,
           handed := fun m => if m = module then some p else d.handed m }

def step (d : Delivery) : DeliveryEvent → Delivery
  | .store module text =>
    match d.state.settings.update module text with
    | .error _ => d
    | .ok (p, store) =>
      { d with state := { d.state with settings := store }, inFlight := d.inFlight ++ [(module, p)] }
  | .deliver i =>
    match d.inFlight[i]? with
    | none => d
    | some (module, p) => { d.receive module p with inFlight := d.inFlight.eraseIdx i }

def run (d : Delivery) (events : List DeliveryEvent) : Delivery := events.foldl step d

end Delivery

end ProxyRouter.Console
