import ProxyRouter.Console.Handler
/-!
Requests that change the routing settings, handled concurrently.
-/
namespace ProxyRouter.Console

open Settings

/-- A request that changes the routing settings from the ones it read: `POST /api/rules` with
its body, or `POST /api/rules/defaults` with its template, empty for the built-in rules. -/
inductive RoutingRequest where
  | addRules (body : String)
  | loadDefaults (template : String)
deriving Repr

def RoutingRequest.plan : RoutingRequest → RoutingSettings → RoutingPlan
  | .addRules body, current => rulesPlan current body
  | .loadDefaults name, current => defaultsPlan current name

/-- The router and the requests that have read the routing settings but not yet stored theirs,
each with what it read. -/
structure RoutingTraffic where
  state : RouterState
  inFlight : List (RoutingRequest × RoutingSettings) := []

/-- What happens next. -/
inductive TrafficEvent where
  /-- a request reads the stored routing settings -/
  | read (request : RoutingRequest)
  /-- the request at this position among those that have read stores its settings and answers -/
  | write (i : Nat)
  /-- an update of a module's settings from elsewhere, stored and handed to its subscriber -/
  | update (module text : String)
deriving Repr

namespace RoutingTraffic

def step (t : RoutingTraffic) : TrafficEvent → RoutingTraffic
  | .read req => { t with inFlight := t.inFlight ++ [(req, t.state.settings.current.routing)] }
  | .write i =>
    match t.inFlight[i]? with
    | some (req, read) =>
      { state := ((req.plan read).carryOut t.state).2, inFlight := t.inFlight.eraseIdx i }
    | none => t
  | .update module text => { t with state := (t.state.updateSettings module text).2 }

def run (t : RoutingTraffic) (events : List TrafficEvent) : RoutingTraffic := events.foldl step t

end RoutingTraffic

end ProxyRouter.Console
