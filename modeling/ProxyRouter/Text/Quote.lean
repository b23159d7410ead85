import ProxyRouter.Text.Printable
import ProxyRouter.Text.Utf8
/-!
Quoted text: a text between double quotes in which a quote and a backslash are preceded by a
backslash, the usual control characters have their one-letter escapes, printable characters
stand for themselves, and every other character is written in hexadecimal (`\x7f`, ` `,
`\U000e0001`). Error messages quote the names and texts they report this way.
-/
namespace ProxyRouter.Text

def hexDigits (width n : Nat) : List Char :=
  (List.range width).reverse.map fun i => Nat.digitChar (n / Nat.pow 16 i % 16)

def escapeChar (c : Char) : List Char :=
  if c == '"' || c == '\\' then ['\\', c]
  else if isPrintable c then [c]
  else
    match c with
    | '\x07' => ['\\', 'a']
    | '\x08' => ['\\', 'b']
    | '\x0c' => ['\\', 'f']
    | '\n' => ['\\', 'n']
    | '\r' => ['\\', 'r']
    | '\t' => ['\\', 't']
    | '\x0b' => ['\\', 'v']
    | _ =>
      let n := c.toNat
      if n < 0x20 || n == 0x7F then '\\' :: 'x' :: hexDigits 2 n
      else if n < 0x10000 then '\\' :: 'u' :: hexDigits 4 n
      else '\\' :: 'U' :: hexDigits 8 n

def quote (s : String) : String :=
  String.ofList ('"' :: (s.toList.flatMap escapeChar ++ ['"']))

/-- The escaped form of bytes read as UTF-8: a well-formed sequence is escaped as its character
is, and a byte that begins no well-formed sequence is written in hexadecimal (`\xc3`). -/
def escapeBytes : List UInt8 → List Char
  | [] => []
  | b :: rest =>
    let (c, used) := leadingChar b rest
    let here := if 0x80 ≤ b && used == 0 then '\\' :: 'x' :: hexDigits 2 b.toNat else escapeChar c
    here ++ escapeBytes (rest.drop used)
termination_by bytes => bytes.length
decreasing_by simp only [List.length_drop, List.length_cons]; omega

/-- Bytes between double quotes, escaped as `escapeBytes` does; for the bytes of a text this is
`quote` of the text. -/
def quoteBytes (bytes : List UInt8) : String :=
  String.ofList ('"' :: (escapeBytes bytes ++ ['"']))

end ProxyRouter.Text
