import ProxyRouter.Json.Value
import ProxyRouter.Decimal.Layout
import ProxyRouter.Text.Quote
import ProxyRouter.Time.Stamp
/-!
Decoded YAML values: null, truth values, integers (those past the signed 64-bit range as
unsigned), binary64 numbers, texts, timestamps, sequences, and mappings. A mapping whose keys are all texts
is a map from texts; any other is a map from values. Both keep their entries sorted and a key at
most once, so that the order of printing is the order of the entries.
-/
namespace ProxyRouter.Yaml

/-- A decoded value. -/
inductive Value where
  | null
  | bool (b : Bool)
  | int (n : Int)
  | uint (n : Nat)
  | float (x : Float)
  | str (s : String)
  | time (t : Time.Stamp)
  | seq (items : List Value)
  | strMap (entries : List (String × Value))
  | anyMap (entries : List (Value × Value))
deriving Repr, Inhabited

namespace Value

def isCollection : Value → Bool
  | .seq _ | .strMap _ | .anyMap _ => true
  | _ => false

/-- Two keys are the same key: same kind and equal; numbers compare as numbers, so a NaN key
never equals another. Collections are never the same. -/
def sameKey : Value → Value → Bool
  | .null, .null => true
  | .bool a, .bool b => a == b
  | .int a, .int b => a == b
  | .uint a, .uint b => a == b
  | .float a, .float b => a == b
  | .str a, .str b => a == b
  | .time a, .time b => a.sameKey b
  | _, _ => false

/-- The rank of a key's kind in the order of printing: null first, then texts, unsigned and
signed integers, numbers, truth values and timestamps. A formatter orders keys of different
kinds by where the descriptions of their types lie in the program, and this is that order. -/
def kindRank : Value → Nat
  | .null => 0
  | .str _ => 1
  | .uint _ => 2
  | .int _ => 3
  | .float _ => 4
  | .bool _ => 5
  | .time _ => 6
  | _ => 7

/-- Keys in the order of printing: by kind, then by value; `false` before `true`, and NaN
before every other number. -/
def keyBefore (a b : Value) : Bool :=
  if kindRank a != kindRank b then kindRank a < kindRank b
  else
    match a, b with
    | .bool x, .bool y => !x && y
    | .int x, .int y => x < y
    | .uint x, .uint y => x < y
    | .float x, .float y => (x.isNaN && !y.isNaN) || x < y
    | .str x, .str y => x < y
    | .time x, .time y => x.before y
    | _, _ => false

def putText (k : String) (v : Value) : List (String × Value) → List (String × Value)
  | [] => [(k, v)]
  | e :: es => if k == e.1 then (k, v) :: es else if k < e.1 then (k, v) :: e :: es
    else e :: putText k v es

def putAny (k v : Value) (es : List (Value × Value)) : List (Value × Value) :=
  if es.any (fun e => sameKey e.1 k) then es.map fun e => if sameKey e.1 k then (e.1, v) else e
  else insert es
where
  /-- Insert a new key in order. -/
  insert : List (Value × Value) → List (Value × Value)
    | [] => [(k, v)]
    | e :: es => if keyBefore k e.1 then (k, v) :: e :: es else e :: insert es

def floatText (x : Float) : String := Decimal.formatFloat .general x

mutual
/-- The plain text of a value: `<nil>`, `true`, numbers, the text itself, `[a b]` and
`map[k:v k2:v2]`. -/
def text : Value → String
  | .null => "<nil>"
  | .bool b => if b then "true" else "false"
  | .int n => toString n
  | .uint n => toString n
  | .float x => floatText x
  | .str s => s
  | .time t => t.text
  | .seq items => "[" ++ itemsText items ++ "]"
  | .strMap es => "map[" ++ textEntriesText es ++ "]"
  | .anyMap es => "map[" ++ anyEntriesText es ++ "]"

def itemsText : List Value → String
  | [] => ""
  | [v] => text v
  | v :: vs => text v ++ " " ++ itemsText vs

def textEntriesText : List (String × Value) → String
  | [] => ""
  | [(k, v)] => k ++ ":" ++ text v
  | (k, v) :: es => k ++ ":" ++ text v ++ " " ++ textEntriesText es

def anyEntriesText : List (Value × Value) → String
  | [] => ""
  | [(k, v)] => text k ++ ":" ++ text v
  | (k, v) :: es => text k ++ ":" ++ text v ++ " " ++ anyEntriesText es
end

mutual
/-- The literal form of a value: texts quoted, unsigned integers in hexadecimal, collections
with their type written before the braces. -/
def literal : Value → String
  | .null => "interface \x7b\x7d(nil)"
  | .bool b => if b then "true" else "false"
  | .int n => toString n
  | .uint n => "0x" ++ String.ofList (Nat.toDigits 16 n)
  | .float x => floatText x
  | .str s => Text.quote s
  | .time t => t.literal
  | .seq items => "[]interface \x7b\x7d\x7b" ++ itemsLiteral items ++ "\x7d"
  | .strMap es => "map[string]interface \x7b\x7d\x7b" ++ textEntriesLiteral es ++ "\x7d"
  | .anyMap es => "map[interface \x7b\x7d]interface \x7b\x7d\x7b" ++ anyEntriesLiteral es ++ "\x7d"

def itemsLiteral : List Value → String
  | [] => ""
  | [v] => literal v
  | v :: vs => literal v ++ ", " ++ itemsLiteral vs

def textEntriesLiteral : List (String × Value) → String
  | [] => ""
  | [(k, v)] => Text.quote k ++ ":" ++ literal v
  | (k, v) :: es => Text.quote k ++ ":" ++ literal v ++ ", " ++ textEntriesLiteral es

def anyEntriesLiteral : List (Value × Value) → String
  | [] => ""
  | [(k, v)] => literal k ++ ":" ++ literal v
  | (k, v) :: es => literal k ++ ":" ++ literal v ++ ", " ++ anyEntriesLiteral es
end

mutual
/-- The JSON form of a value; keys that are not texts are written as their plain text, and
numbers that are not finite as the strings `NaN`, `+Inf` and `-Inf`. -/
def toJson : Value → Json
  | .null => .null
  | .bool b => .bool b
  | .int n => Json.int n
  | .uint n => .number (toString n)
  | .float x => Json.float x
  | .str s => .string s
  | .time t => .string t.rfc3339
  | .seq items => .array (itemsJson items)
  | .strMap es => .object (textEntriesJson es)
  | .anyMap es => .object (anyEntriesJson es)

def itemsJson : List Value → List Json
  | [] => []
  | v :: vs => toJson v :: itemsJson vs

def textEntriesJson : List (String × Value) → List (String × Json)
  | [] => []
  | (k, v) :: es => (k, toJson v) :: textEntriesJson es

def anyEntriesJson : List (Value × Value) → List (String × Json)
  | [] => []
  | (k, v) :: es => (text k, toJson v) :: anyEntriesJson es
end

end Value

end ProxyRouter.Yaml
