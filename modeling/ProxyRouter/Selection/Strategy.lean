import ProxyRouter.Text.CaseMap
import ProxyRouter.Text.Blank
/-!
Selection strategies. A strategy is a number; the numbers 0 to 3 are the known strategies
`health_weighted`, `round_robin`, `least_used` and `random`, and every other number is a
strategy without a balancer, named `unknown`. A name is read without surrounding blanks and up
to case; a name that is not known reads as `health_weighted`.
-/
namespace ProxyRouter.Selection

/-- A selection strategy, by number. -/
structure Strategy where
  code : Int
deriving DecidableEq, Repr, Inhabited

namespace Strategy

def healthWeighted : Strategy := ⟨0⟩
def roundRobin : Strategy := ⟨1⟩
def leastUsed : Strategy := ⟨2⟩
def random : Strategy := ⟨3⟩

def all : List Strategy := [healthWeighted, roundRobin, leastUsed, random]

def name (s : Strategy) : String :=
  match s.code with
  | 0 => "health_weighted"
  | 1 => "round_robin"
  | 2 => "least_used"
  | 3 => "random"
  | _ => "unknown"

/-- The strategy a name stands for, and whether the name is known; an unknown name stands for
`health_weighted`. -/
def parse (text : String) : Strategy × Bool :=
  let key := Text.lower (Text.trimBlank text)
  match all.find? (·.name == key) with
  | some s => (s, true)
  | none => (healthWeighted, false)

end Strategy
end ProxyRouter.Selection
