import ProxyRouter.Json.Value
import ProxyRouter.Decimal.Read
/-!
Values read without a schema. Such a value keeps numbers as binary64 and objects as maps: a
number is written back in the shortest form that reads back as the same binary64 (`1.0` becomes
`1`), and an object's members come back sorted by key with the last of repeated keys kept.
-/
namespace ProxyRouter.Json

def insertMember (k : String) (v : Json) : List (String × Json) → List (String × Json)
  | [] => [(k, v)]
  | (k', v') :: ms =>
    if k == k' then (k, v) :: ms
    else if k < k' then (k, v) :: (k', v') :: ms
    else (k', v') :: insertMember k v ms

def asMap (ms : List (String × Json)) : List (String × Json) :=
  ms.foldl (fun acc m => insertMember m.1 m.2 acc) []

def binaryNumber (literal : String) : Json :=
  match Decimal.readFloat literal with
  | .ok x => Json.float x
  | .error _ => .number literal

mutual
def dynamic : Json → Json
  | .number n => binaryNumber n
  | .array xs => .array (dynamicItems xs)
  | .object ms => .object (asMap (dynamicMembers ms))
  | j => j

def dynamicItems : List Json → List Json
  | [] => []
  | x :: xs => dynamic x :: dynamicItems xs

def dynamicMembers : List (String × Json) → List (String × Json)
  | [] => []
  | (k, v) :: ms => (k, dynamic v) :: dynamicMembers ms
end

end ProxyRouter.Json
