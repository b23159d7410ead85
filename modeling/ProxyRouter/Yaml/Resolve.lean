import ProxyRouter.Yaml.Value
import ProxyRouter.Decimal.Read
import ProxyRouter.Text.Utf8
/-!
What a scalar means. A scalar without tag is read by its first character: the words `true`,
`false` (three spellings each), `null`, `~` and the empty text, `.inf`, `-.inf` and `.nan`
stand for themselves; a leading digit or sign asks for a date, an integer (any base prefix,
underscores ignored, unsigned past the signed 64-bit range) or a decimal number; a leading point
for a decimal number; anything else is text. A date (`2001-12-14`, optionally with a time)
is a timestamp.
-/
namespace ProxyRouter.Yaml

def longTagPrefix : String := "tag:yaml.org,2002:"

def shortTag (tag : String) : String :=
  if tag.startsWith longTagPrefix then "!!" ++ String.ofList (tag.toList.drop longTagPrefix.length)
  else tag

def resolvable (tag : String) : Bool :=
  ["", "!!str", "!!bool", "!!int", "!!float", "!!timestamp", "!!null"].contains tag

/-- The class of a scalar's first character: `N` for the empty text, `S` for a sign, `D` for a
digit, `M` for a letter that may begin a word with a fixed meaning, `.` for a point. -/
def hintOf (text : String) : Option Char :=
  match text.toList with
  | [] => some 'N'
  | c :: _ =>
    if c == '+' || c == '-' then some 'S'
    else if Char.isDigit c then some 'D'
    else if "yYnNtTfFoO~".contains c then some 'M'
    else if c == '.' then some '.'
    else none

def infinity : Float := 1.0 / 0.0

def fixedWord (text : String) : Option (String × Value) :=
  match text with
  | "true" | "True" | "TRUE" => some ("!!bool", .bool true)
  | "false" | "False" | "FALSE" => some ("!!bool", .bool false)
  | "" | "~" | "null" | "Null" | "NULL" => some ("!!null", .null)
  | ".nan" | ".NaN" | ".NAN" => some ("!!float", .float (0.0 / 0.0))
  | ".inf" | ".Inf" | ".INF" | "+.inf" | "+.Inf" | "+.INF" => some ("!!float", .float infinity)
  | "-.inf" | "-.Inf" | "-.INF" => some ("!!float", .float (-infinity))
  | _ => none

def spanDigits (cs : List Char) : List Char × List Char := (cs.takeWhile Char.isDigit, cs.dropWhile Char.isDigit)

/-- The text has the shape of a decimal number: an optional sign, digits with an optional
point and fraction or a point and digits, and an optional exponent. -/
def floatShape (s : String) : Bool :=
  let cs := (Decimal.splitSign s.toList).2
  let (mantissa, rest) := match cs with
    | '.' :: r =>
      let (ds, r) := spanDigits r
      (!ds.isEmpty, r)
    | _ =>
      let (ds, r) := spanDigits cs
      match r with
      | '.' :: r2 => (!ds.isEmpty, (spanDigits r2).2)
      | _ => (!ds.isEmpty, r)
  mantissa &&
    match rest with
    | [] => true
    | e :: r =>
      (e == 'e' || e == 'E') &&
        let (ds, r) := spanDigits (Decimal.splitSign r).2
        !ds.isEmpty && r.isEmpty

/-- Read a number-like scalar: a timestamp (when no other tag is asked for), an integer in any
base, an unsigned integer, a decimal number, or a binary or octal literal with its sign after
the prefix; otherwise text. -/
def numeric (tag text : String) : String × Value :=
  match (if tag == "" || tag == "!!timestamp" then Time.Stamp.read text else none) with
  | some t => ("!!timestamp", .time t)
  | none =>
    let plain := String.ofList (text.toList.filter (· != '_'))
    let rest (n : Nat) := String.ofList (plain.toList.drop n)
    match Decimal.readInt plain true, Decimal.readNat plain true with
    | .ok n, _ => ("!!int", .int n)
    | _, .ok n => ("!!int", .uint n)
    | _, _ =>
      match (if floatShape plain then Decimal.readFloat plain else .error .malformed) with
      | .ok x => ("!!float", .float x)
      | .error _ =>
        let based (base : Nat) (prefixLength : Nat) : String × Value :=
          match Decimal.readIntIn base (rest prefixLength), Decimal.readNatIn base (rest prefixLength) with
          | .ok n, _ => ("!!int", .int n)
          | _, .ok n => ("!!int", .uint n)
          | _, _ => ("!!str", .str text)
        let negative (base : Nat) : String × Value :=
          match Decimal.readIntIn base ("-" ++ rest 3) with
          | .ok n => ("!!int", .int n)
          | .error _ => ("!!str", .str text)
        if plain.startsWith "0b" then based 2 2
        else if plain.startsWith "-0b" then negative 2
        else if plain.startsWith "0o" then based 8 2
        else if plain.startsWith "-0o" then negative 8
        else ("!!str", .str text)

def guess (tag text : String) : String × Value :=
  match hintOf text with
  | none => ("!!str", .str text)
  | some hint =>
    if tag == "!!str" || tag == "!!binary" then ("!!str", .str text)
    else
      match fixedWord text with
      | some r => r
      | none =>
        if hint == '.' then
          match Decimal.readFloat text with
          | .ok x => ("!!float", .float x)
          | .error _ => ("!!str", .str text)
        else if hint == 'D' || hint == 'S' then numeric tag text
        else ("!!str", .str text)

/-- The tag and value of a scalar with a tag (empty for none), or why it cannot have that
tag. -/
def resolve (tag0 text : String) : Except String (String × Value) :=
  let tag := shortTag tag0
  if !resolvable tag then .ok (tag, .str text)
  else
    let (rtag, v) := guess tag text
    if tag == "" || tag == rtag || tag == "!!str" then .ok (rtag, v)
    else
      match tag, v with
      | "!!float", .int n => .ok ("!!float", .float (Float.ofInt n))
      | _, _ => .error ("cannot decode " ++ rtag ++ " \x60" ++ text ++ "\x60 as a " ++ tag)

def plainTag (text : String) : String :=
  match resolve "" text with
  | .ok (t, _) => t
  | .error _ => "!!str"

def base64Value (c : Char) : Option Nat :=
  if 'A' ≤ c && c ≤ 'Z' then some (c.toNat - 'A'.toNat)
  else if 'a' ≤ c && c ≤ 'z' then some (c.toNat - 'a'.toNat + 26)
  else if '0' ≤ c && c ≤ '9' then some (c.toNat - '0'.toNat + 52)
  else if c == '+' then some 62
  else if c == '/' then some 63
  else none

def base64Bytes : List Char → Option (List UInt8)
  | [] => some []
  | [a, b, '=', '='] => do
    let x ← base64Value a
    let y ← base64Value b
    pure [(x * 4 + y / 16).toUInt8]
  | [a, b, c, '='] => do
    let x ← base64Value a
    let y ← base64Value b
    let z ← base64Value c
    pure [(x * 4 + y / 16).toUInt8, ((y % 16) * 16 + z / 4).toUInt8]
  | a :: b :: c :: d :: rest => do
    let x ← base64Value a
    let y ← base64Value b
    let z ← base64Value c
    let w ← base64Value d
    let more ← base64Bytes rest
    pure ((x * 4 + y / 16).toUInt8 :: ((y % 16) * 16 + z / 4).toUInt8 :: ((z % 4) * 64 + w).toUInt8 :: more)
  | _ => none

/-- The text that padded base64 spells, line breaks ignored; bytes that are not UTF-8 read as
U+FFFD. -/
def base64Text (s : String) : Option String :=
  (base64Bytes (s.toList.filter fun c => c != '\r' && c != '\n')).map Text.ofBytesLossy

end ProxyRouter.Yaml
