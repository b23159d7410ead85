import ProxyRouter.Selection.Strategy
import ProxyRouter.Pool.Proxy
import ProxyRouter.Order.Unstable
/-!
Balancers: how each strategy picks one proxy from the candidates.
-/
namespace ProxyRouter.Selection

open Pool

/-- A proxy as the balancers see it. -/
structure ProxyState where
  identity : ProxyIdentity
  score : Float := 0
  latencyMs : Int := 0
  lastChecked : Instant := Instant.zero
  healthy : Bool := false
  usage : UsageRecord := {}
deriving Inhabited, Repr

/-- The outcome of the random source for one choice. -/
structure Draw where
  fraction : Float := 0
  index : Nat := 0
deriving Inhabited, Repr

def healthySubset (states : List ProxyState) : List ProxyState := states.filter (·.healthy)

def healthyOrAll (states : List ProxyState) : List ProxyState :=
  match healthySubset states with
  | [] => states
  | h => h

/-- The weight of a proxy in the weighted choice: its score, at least `0.1`; a score that is not
a number stays not a number. -/
def weight (s : ProxyState) : Float :=
  if s.score.isNaN then s.score else if s.score > 0.1 then s.score else 0.1

def pickByWeight (r : Float) : Float → List ProxyState → Option ProxyState
  | _, [] => none
  | _, [c] => some c
  | acc, c :: cs => if r < acc + weight c then some c else pickByWeight r (acc + weight c) cs

def pickAt (index : Nat) (cs : List ProxyState) : Option ProxyState :=
  if cs.isEmpty then none else cs[index % cs.length]?

/-- The states sorted by name with the unstable sort: up to twelve states keep the order of
equal names, longer lists may not. -/
def sortByName (states : List ProxyState) : List ProxyState :=
  (Order.sortBy (fun s t => decide (s.identity.name < t.identity.name)) states.toArray).toList

def leastUsedState? : List ProxyState → Option ProxyState
  | [] => none
  | s :: ss => some (ss.foldl (fun m t =>
      if t.usage.selectionCount < m.usage.selectionCount then t else m) s)

/-- Why a balancer chose nothing. -/
inductive BalanceError where
  /-- the weighted choice found no healthy proxy and may not fall back -/
  | noHealthy
  /-- the strategy has no balancer -/
  | noBalancer
  /-- there was nothing to choose from -/
  | empty
deriving DecidableEq, Repr

/-- The choice of a balancer among non-empty candidates, with the rotation counter after it. -/
def balance (strategy : Strategy) (fallbackToAll : Bool) (rotation : UInt32) (draw : Draw)
    (states : List ProxyState) : Except BalanceError ProxyState × UInt32 :=
  let found (o : Option ProxyState) : Except BalanceError ProxyState :=
    match o with
    | some s => .ok s
    | none => .error .empty
  match strategy.code with
  | 0 =>
    let candidates := match healthySubset states with
      | [] => if fallbackToAll then states else []
      | h => h
    if candidates.isEmpty then (.error .noHealthy, rotation)
    else
      let total := candidates.foldl (fun acc c => acc + weight c) 0
      (found (pickByWeight (draw.fraction * total) 0 candidates), rotation)
  | 1 =>
    let candidates := sortByName (healthyOrAll states)
    (found (pickAt rotation.toNat candidates), rotation + 1)
  | 2 =>
    match leastUsedState? states with
    | some least =>
      (found (pickAt draw.index (states.filter
        (·.usage.selectionCount == least.usage.selectionCount))), rotation)
    | none => (.error .empty, rotation)
  | 3 => (found (pickAt draw.index (healthyOrAll states)), rotation)
  | _ => (.error .noBalancer, rotation)

end ProxyRouter.Selection
