import ProxyRouter.Decimal.Layout
import ProxyRouter.Time.Instant
/-!
JSON values. A number keeps the text of its literal, so that integers of any size and the exact
spelling of a decimal survive reading and writing; objects keep their members in order, with
duplicates, as they were read or built. A time is kept as an instant until the value is written,
because a time whose year has more or fewer than four digits cannot be written.
-/
namespace ProxyRouter

/-- A JSON value. -/
inductive Json where
  | null
  | bool (b : Bool)
  | number (literal : String)
  | string (s : String)
  | array (items : List Json)
  | object (members : List (String × Json))
  /-- a time, written as its RFC 3339 text -/
  | time (t : Instant)
deriving Inhabited, Repr

namespace Json

def int (n : Int) : Json := .number (toString n)

/-- A binary64 number in the shortest form that reads back; the values that are not finite
become the strings `NaN`, `+Inf` and `-Inf`. -/
def float (x : Float) : Json :=
  if x.isNaN || x.isInf then .string (Decimal.formatFloat .document x)
  else .number (Decimal.formatFloat .document x)

def strings (xs : List String) : Json := .array (xs.map .string)

def stringsOrNull : Option (List String) → Json
  | some xs => strings xs
  | none => .null

def field? (j : Json) (key : String) : Option Json :=
  match j with
  | .object ms => (ms.reverse.find? (·.1 == key)).map (·.2)
  | _ => none

def str? : Json → Option String
  | .string s => some s
  | _ => none

def bool? : Json → Option Bool
  | .bool b => some b
  | _ => none

def array? : Json → Option (List Json)
  | .array xs => some xs
  | _ => none

def members? : Json → Option (List (String × Json))
  | .object ms => some ms
  | _ => none

end Json
end ProxyRouter
