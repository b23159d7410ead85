import ProxyRouter.Routing.Host
/-!
The decision cache: routing answers by target, with a capacity. It keeps a lookup map from target
to answer and, apart from it, the targets in the order they were first cached. Writing a known
key changes its answer in the map and leaves the order; writing a new key when the map holds
`capacity` entries first drops the oldest tenth of the capacity (at least one, at most the whole
order) from both. Keys are targets, told apart by their bytes.
-/
namespace ProxyRouter.Routing

/-- The cache's lookup map, the targets in the order they were first cached, and a positive
capacity. -/
structure DecisionCache where
  capacity : Nat
  answers : List (Target × Bool)
  order : List Target
deriving Repr

namespace DecisionCache

def lookup (answers : List (Target × Bool)) (key : Target) : Option Bool :=
  (answers.find? (·.1 == key)).map (·.2)

def store (answers : List (Target × Bool)) (key : Target) (value : Bool) : List (Target × Bool) :=
  (key, value) :: answers.filter (·.1 != key)

def forget (answers : List (Target × Bool)) (key : Target) : List (Target × Bool) :=
  answers.filter (·.1 != key)

def empty (capacity : Int) : DecisionCache :=
  ⟨if capacity ≤ 0 then 1000 else capacity.toNat, [], []⟩

def get? (c : DecisionCache) (key : Target) : Option Bool := lookup c.answers key

def evictionCount (c : DecisionCache) : Nat := max 1 (c.capacity / 10)

/-- Drop the oldest entries, as many as `evictionCount` but no more than the order holds, from
the map and from the order. -/
def evict (c : DecisionCache) : DecisionCache :=
  let n := min c.evictionCount c.order.length
  { c with answers := (c.order.take n).foldl forget c.answers, order := c.order.drop n }

/-- Store an answer. -/
def put (c : DecisionCache) (key : Target) (value : Bool) : DecisionCache :=
  match lookup c.answers key with
  | some _ => { c with answers := store c.answers key value }
  | none =>
    let c := if c.capacity ≤ c.answers.length then c.evict else c
    { c with answers := store c.answers key value, order := c.order ++ [key] }

def size (c : DecisionCache) : Nat := c.answers.length

def keys (c : DecisionCache) : List String := c.order.map (·.text)

def clear (c : DecisionCache) : DecisionCache := { c with answers := [], order := [] }

end DecisionCache
end ProxyRouter.Routing
