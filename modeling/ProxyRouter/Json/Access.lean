import ProxyRouter.Json.Value
import ProxyRouter.Decimal.Read
import ProxyRouter.Json.Dynamic
/-!
Reading members of JSON objects with defaults: a missing member reads as null, and a member of
the wrong kind reads as the kind's empty value (`""`, `false`, `0`, the empty list). A number
read as an integer is read as a whole literal first and otherwise as a decimal cut toward zero.
-/
namespace ProxyRouter.Json

def member (j : Json) (key : String) : Json := (j.field? key).getD .null

def hasMember (j : Json) (key : String) : Bool :=
  match j.field? key with
  | some .null | none => false
  | _ => true

def textAt (j : Json) (key : String) : String := ((j.field? key).bind str?).getD ""

def flagAt (j : Json) (key : String) : Bool := ((j.field? key).bind bool?).getD false

def toIntD : Json → Int
  | .number n => match Decimal.readInt n with
    | .ok v => v
    | .error _ => match Decimal.readFloat n with
      | .ok f => if f < 0 then -((-f).floor.toUInt64.toNat : Int) else (f.floor.toUInt64.toNat : Int)
      | .error _ => 0
  | _ => 0

def intAt (j : Json) (key : String) : Int := toIntD (member j key)

def toFloatD : Json → Float
  | .number n => match Decimal.readFloat n with
    | .ok f => f
    | .error _ => 0
  | _ => 0

def floatAt (j : Json) (key : String) : Float := toFloatD (member j key)

def itemsAt (j : Json) (key : String) : List Json := ((j.field? key).bind array?).getD []

def textsAt (j : Json) (key : String) : List String := (itemsAt j key).filterMap str?

def textsOrNone (j : Json) (key : String) : Option (List String) :=
  match member j key with
  | .array xs => some (xs.filterMap str?)
  | _ => none

def mapAt (j : Json) (key : String) : List (String × Json) := asMap ((member j key).members?.getD [])

end ProxyRouter.Json
