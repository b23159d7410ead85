import ProxyRouter.Routing.Matcher
import ProxyRouter.Selection.Selector
import ProxyRouter.Selection.Sticky
/-!
The dispatcher answers, for a target, whether it goes through a proxy and through which one.
-/
namespace ProxyRouter.Selection

open Pool Routing

/-- The answer for one target. -/
structure Decision where
  target : Target
  host : String
  useProxy : Bool := false
  proxy : Option ProxyIdentity := none
  ingress : String := ""
  strategy : String := ""
  matchedBy : String := ""
deriving Repr

/-- What observers of the router see, in order. -/
inductive RouterEvent where
  /-- the matcher answered, from its cache or not -/
  | route (observation : RouteObservation)
  /-- the selector's balancer chose a proxy with a strategy -/
  | selected (strategy name : String)
  /-- the dispatcher decided, by this means -/
  | decided (matchedBy : String)
deriving Repr

/-- Why a target got no proxy. -/
structure DispatchError where
  target : Target
  reason : SelectError
deriving Repr

def DispatchError.message (e : DispatchError) : String :=
  "target " ++ e.target.quoted ++ " needs a proxy: " ++ e.reason.message

/-- Routing rules, selector, sessions and recent hosts together. -/
structure Router where
  matcher : Matcher
  selector : Selector
  ingress : String
  sticky : StickyManager
  recent : List String := []
deriving Repr

namespace Router

def recentLimit : Nat := 20

/-- Remember a host among the recent ones. -/
def recordTarget (r : Router) (host : String) : Router :=
  if r.recent.contains host then r
  else
    let kept := if r.recent.length ≥ recentLimit then r.recent.drop 1 else r.recent
    { r with recent := kept ++ [host] }

/-- The strategy asked for by name, an unknown name meaning `health_weighted`, or the selector's
own when the name is empty. -/
def strategyFor (r : Router) (strategy : String) : Strategy :=
  if strategy.isEmpty then r.selector.config.strategy else (Strategy.parse strategy).1

/-- The proxy a host's session keeps, when sessions apply to the host and the session's proxy is
still healthy and in the roster, with the session table after looking the session up. -/
def keptProxy (r : Router) (now : Instant) (host : String) : Option ProxyIdentity × StickyManager :=
  if r.sticky.shouldApply host then
    let (record, _, sticky) := r.sticky.get now host r.selector.isHealthy
    (record.bind fun rec => r.selector.lookup rec.proxy, sticky)
  else (none, r.sticky)

/-- Decide for a target, asking for a strategy by name (empty for the selector's own). -/
def dispatch (r : Router) (now : Instant) (draw : Draw) (target : Target) (strategy : String) :
    Except DispatchError Decision × List RouterEvent × Router :=
  let host := target.host
  let (useProxy, seen, matcher) := r.matcher.route target
  let r := { r with matcher := matcher }
  let routeEvents := match seen with
    | some o => [RouterEvent.route o]
    | none => []
  let decision : Decision := { target := target, host := host }
  if !useProxy then
    (.ok { decision with matchedBy := "direct" }, routeEvents ++ [.decided "direct"], r)
  else
    let r := r.recordTarget host
    let chosen := r.strategyFor strategy
    let decision := { decision with useProxy := true, ingress := r.ingress, strategy := chosen.name }
    let applies := r.sticky.shouldApply host
    let (kept, sticky) := r.keptProxy now host
    let r := { r with sticky := sticky }
    match kept with
    | some id =>
      (.ok { decision with proxy := some id, matchedBy := "sticky" }, routeEvents ++ [.decided "sticky"], r)
    | none =>
      match r.selector.select now draw chosen with
      | (.error e, selector) => (.error ⟨target, e⟩, routeEvents, { r with selector := selector })
      | (.ok c, selector) =>
        let r := { r with selector := selector }
        let r := if applies then { r with sticky := r.sticky.set now host c.proxy.name } else r
        let selected := if c.counted then [RouterEvent.selected chosen.name c.proxy.name] else []
        (.ok { decision with proxy := some c.proxy, matchedBy := "selector" },
          routeEvents ++ selected ++ [.decided "selector"], r)

def onSettings (r : Router) (module : String) (payload : Settings.Payload) : Except String Router :=
  if module != Settings.stickyKey then .ok r
  else
    match payload with
    | .sticky c => .ok { r with sticky := StickyManager.new (some c) }
    | _ => .error "dispatcher: received incorrect settings type for sticky module"

end Router

def Decision.toJson (d : Decision) : Json :=
  .object ([("target", .string d.target.text), ("host", .string d.host), ("use_proxy", .bool d.useProxy)] ++
    (match d.proxy with
      | some p => [("proxy", p.toJson)]
      | none => []) ++
    (if d.ingress.isEmpty then [] else [("ingress", .string d.ingress)]) ++
    (if d.strategy.isEmpty then [] else [("strategy", .string d.strategy)]) ++
    [("matched_by", .string d.matchedBy)])

def RouterEvent.toJson : RouterEvent → Json
  | .route o => .object [("route", .object [("cache_hit", .bool o.cacheHit), ("use_proxy", .bool o.useProxy)])]
  | .selected s n => .object [("selected", .object [("strategy", .string s), ("name", .string n)])]
  | .decided m => .object [("decision", .string m)]

end ProxyRouter.Selection
