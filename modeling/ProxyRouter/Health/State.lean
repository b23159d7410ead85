/-!
Health grades. A proxy's history is graded from `critical` up to `excellent`; `unknown` is the
grade of a proxy without history. Grades are numbered 0 to 5 in that order, `unknown` first.
-/
namespace ProxyRouter.Health

/-- The grade of a proxy's health history. -/
inductive HealthState where
  | unknown
  | critical
  | poor
  | fair
  | good
  | excellent
deriving DecidableEq, Repr, Inhabited

namespace HealthState

def ofCode? : Int → Option HealthState
  | 0 => some .unknown
  | 1 => some .critical
  | 2 => some .poor
  | 3 => some .fair
  | 4 => some .good
  | 5 => some .excellent
  | _ => none

def code : HealthState → Int
  | .unknown => 0
  | .critical => 1
  | .poor => 2
  | .fair => 3
  | .good => 4
  | .excellent => 5

def name : HealthState → String
  | .unknown => "unknown"
  | .critical => "critical"
  | .poor => "poor"
  | .fair => "fair"
  | .good => "good"
  | .excellent => "excellent"

def nameOfCode (code : Int) : String := ((ofCode? code).getD .unknown).name

end HealthState
end ProxyRouter.Health
