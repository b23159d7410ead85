import ProxyRouter.Json.Value
import ProxyRouter.Text.Quote
/-!
Writing JSON text. Strings escape the quote, the backslash and control characters, and also
`<`, `>`, `&`, U+2028 and U+2029 as `\u` escapes, so that the text is safe inside HTML and
script. The compact form has no blanks; the indented form puts each member and item on a line
of its own, indented by two spaces per level, with empty objects and arrays written `{}` and
`[]`.
-/
namespace ProxyRouter.Json

def escapeChar (c : Char) : List Char :=
  match c with
  | '"' => ['\\', '"']
  | '\\' => ['\\', '\\']
  | '\n' => ['\\', 'n']
  | '\r' => ['\\', 'r']
  | '\t' => ['\\', 't']
  | '\x08' => ['\\', 'b']
  | '\x0c' => ['\\', 'f']
  | '<' | '>' | '&' => '\\' :: 'u' :: Text.hexDigits 4 c.toNat
  | _ =>
    if c.toNat < 0x20 || c.toNat == 0x2028 || c.toNat == 0x2029 then
      '\\' :: 'u' :: Text.hexDigits 4 c.toNat
    else [c]

def quoteString (s : String) : String :=
  String.ofList ('"' :: (s.toList.flatMap escapeChar ++ ['"']))

mutual
def compact : Json → String
  | .null => "null"
  | .bool b => if b then "true" else "false"
  | .number n => n
  | .string s => quoteString s
  | .array xs => "[" ++ ",".intercalate (compactItems xs) ++ "]"
  | .object ms => "\x7b" ++ ",".intercalate (compactMembers ms) ++ "\x7d"
  | .time t => quoteString t.rfc3339

def compactItems : List Json → List String
  | [] => []
  | x :: xs => compact x :: compactItems xs

def compactMembers : List (String × Json) → List String
  | [] => []
  | (k, v) :: ms => (quoteString k ++ ":" ++ compact v) :: compactMembers ms
end

def newline (depth : Nat) : String := "\n" ++ String.ofList (List.replicate (2 * depth) ' ')

mutual
def indented (depth : Nat) : Json → String
  | .array [] => "[]"
  | .object [] => "\x7b\x7d"
  | .array xs =>
    "[" ++ ",".intercalate (indentedItems (depth + 1) xs) ++ newline depth ++ "]"
  | .object ms =>
    "\x7b" ++ ",".intercalate (indentedMembers (depth + 1) ms) ++ newline depth ++ "\x7d"
  | v => compact v

def indentedItems (depth : Nat) : List Json → List String
  | [] => []
  | x :: xs => (newline depth ++ indented depth x) :: indentedItems depth xs

def indentedMembers (depth : Nat) : List (String × Json) → List String
  | [] => []
  | (k, v) :: ms =>
    (newline depth ++ quoteString k ++ ": " ++ indented depth v) :: indentedMembers depth ms
end

def pretty (v : Json) : String := indented 0 v

def writableTime (t : Instant) : Bool := 0 ≤ t.year && t.year ≤ 9999

mutual
def timesWritable : Json → Bool
  | .array xs => itemsWritable xs
  | .object ms => membersWritable ms
  | .time t => writableTime t
  | _ => true

def itemsWritable : List Json → Bool
  | [] => true
  | x :: xs => timesWritable x && itemsWritable xs

def membersWritable : List (String × Json) → Bool
  | [] => true
  | (_, v) :: ms => timesWritable v && membersWritable ms
end

def unwritableTimeMessage : String :=
  "json: error calling MarshalJSON for type *time.Time: year outside of range [0,9999]"

/-- The compact text of a value as the encoder writes it, or its message when a time in the
value cannot be written. -/
def encode (v : Json) : Except String String :=
  if timesWritable v then .ok (compact v) else .error unwritableTimeMessage

mutual
def timesAsText : Json → Json
  | .array xs => .array (itemsAsText xs)
  | .object ms => .object (membersAsText ms)
  | .time t => .string t.rfc3339
  | v => v

def itemsAsText : List Json → List Json
  | [] => []
  | x :: xs => timesAsText x :: itemsAsText xs

def membersAsText : List (String × Json) → List (String × Json)
  | [] => []
  | (k, v) :: ms => (k, timesAsText v) :: membersAsText ms
end

end ProxyRouter.Json
