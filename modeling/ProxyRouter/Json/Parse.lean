import ProxyRouter.Json.Value
import ProxyRouter.Text.Quote
import ProxyRouter.Text.Blank
/-!
Reading JSON text. The reader follows the grammar character by character and reports the first
character that cannot continue a valid text, together with what it was looking for; a text that
stops inside a value is reported as ending too early. The whole text must be one value with
nothing but blanks after it.
-/
namespace ProxyRouter.Json

/-- What the reader was looking for when it met an unexpected character. -/
inductive Expectation where
  | valueStart
  | keyStart
  | afterKey
  | afterMember
  | afterItem
  | inString
  | inNumber
  | inLiteral (word : String) (expected : Char)
  | afterTopLevel
deriving Repr, DecidableEq

/-- Why a text is not JSON. -/
inductive SyntaxError where
  | unexpectedEnd
  | invalidChar (c : Char) (expectation : Expectation)
  /-- a backslash that starts no valid escape, with the bytes of the escape as read -/
  | invalidEscape (bytes : List UInt8)
deriving Repr, DecidableEq

def Expectation.words : Expectation → String
  | .valueStart => "looking for beginning of value"
  | .keyStart => "looking for beginning of object key string"
  | .afterKey => "after object key"
  | .afterMember => "after object key:value pair"
  | .afterItem => "after array element"
  | .inString => "in string"
  | .inNumber => "in numeric literal"
  | .inLiteral w c => "in literal " ++ w ++ " (expecting " ++ quoteChar c ++ ")"
  | .afterTopLevel => "after top-level value"
where
  /-- A character between single quotes, escaped as in a quoted text. -/
  quoteChar (c : Char) : String :=
    if c == '\'' then "'\\''" else if c == '"' then "'\"'"
    else
      let q := Text.quote (String.singleton c)
      "'" ++ String.ofList ((q.toList.drop 1).dropLast) ++ "'"

/-- The text of a malformed escape in a message: between backticks, or quoted when it holds a
backtick, a blank, an unprintable character or a byte that is not UTF-8. -/
def escapeText (bytes : List UInt8) : String :=
  let chars := Text.decodeLossy bytes
  if chars.any fun c => c == '\x60' || c == '\uFFFD' || Text.isBlank c || !Text.isPrintable c then
    Text.quoteBytes bytes
  else "\x60" ++ String.ofList chars ++ "\x60"

def SyntaxError.message : SyntaxError → String
  | .unexpectedEnd => "unexpected end of JSON input"
  | .invalidChar c e => "invalid character " ++ Expectation.words.quoteChar c ++ " " ++ e.words
  | .invalidEscape bytes => "invalid escape sequence " ++ escapeText bytes ++ " in string"

abbrev Reader (α : Type) := List Char → Except SyntaxError (α × List Char)

def isSpace (c : Char) : Bool := c == ' ' || c == '\t' || c == '\n' || c == '\r'

def failAt (cs : List Char) (e : Expectation) : Except SyntaxError α :=
  match cs with
  | c :: _ => .error (.invalidChar c e)
  | [] => .error .unexpectedEnd

def hexValue (c : Char) : Option Nat :=
  if '0' ≤ c && c ≤ '9' then some (c.toNat - 48)
  else if 'a' ≤ c && c ≤ 'f' then some (c.toNat - 87)
  else if 'A' ≤ c && c ≤ 'F' then some (c.toNat - 55) else none

def hex4 (cs : List Char) : Option (Nat × List Char) :=
  match cs with
  | a :: b :: c :: d :: rest =>
    match hexValue a, hexValue b, hexValue c, hexValue d with
    | some w, some x, some y, some z => some (((w * 16 + x) * 16 + y) * 16 + z, rest)
    | _, _, _, _ => none
  | _ => none

def isSurrogate (n : Nat) : Bool := 0xD800 ≤ n && n < 0xE000

/-- Why a `\u` escape, `tail` being the input from its backslash on, is not four hexadecimal
digits: the input ends within what could still be one, or the escape is its first six bytes
(all of them when fewer are left). -/
def unicodeEscapeError (tail : List Char) : SyntaxError :=
  let bytes := (String.ofList (tail.take 6)).toUTF8.toList
  let digits := (bytes.drop 2).all fun b => (hexValue (Char.ofNat b.toNat)).isSome
  if bytes.length < 6 && digits then .unexpectedEnd else .invalidEscape (bytes.take 6)

/-- The character of an escape after its backslash, with the rest of the input. A high
surrogate half followed by an escaped low half makes one character; any other surrogate half
stands for U+FFFD. -/
def readEscape (e : Char) (rest : List Char) : Except SyntaxError (Char × List Char) :=
  match e with
  | '"' => .ok ('"', rest) | '\\' => .ok ('\\', rest) | '/' => .ok ('/', rest)
  | 'b' => .ok ('\x08', rest) | 'f' => .ok ('\x0c', rest) | 'n' => .ok ('\n', rest)
  | 'r' => .ok ('\r', rest) | 't' => .ok ('\t', rest)
  | 'u' =>
    match hex4 rest with
    | none => .error (unicodeEscapeError ('\\' :: 'u' :: rest))
    | some (n, rest') =>
      if isSurrogate n then
        match rest' with
        | '\\' :: 'u' :: more =>
          match hex4 more with
          | some (lowHalf, after) =>
            if n < 0xDC00 && 0xDC00 ≤ lowHalf && lowHalf < 0xE000 then
              .ok (Char.ofNat (0x10000 + (n - 0xD800) * 0x400 + (lowHalf - 0xDC00)), after)
            else .ok ('\uFFFD', rest')
          | none => .ok ('\uFFFD', rest')
        | _ => .ok ('\uFFFD', rest')
      else .ok (Char.ofNat n, rest')
  | _ => .error (.invalidEscape (String.ofList ['\\', e]).toUTF8.toList)

/-- The body of a string after its opening quote, up to and past the closing quote; `fuel`
bounds the number of characters. -/
def readString : Nat → List Char → List Char → Except SyntaxError (String × List Char)
  | 0, _, _ => .error .unexpectedEnd
  | _ + 1, _, [] => .error .unexpectedEnd
  | _ + 1, acc, '"' :: rest => .ok (String.ofList acc.reverse, rest)
  | fuel + 1, acc, '\\' :: rest =>
    match rest with
    | [] => .error .unexpectedEnd
    | e :: rest' =>
      match readEscape e rest' with
      | .ok (c, after) => readString fuel (c :: acc) after
      | .error err => .error err
  | fuel + 1, acc, c :: rest =>
    if c.toNat < 0x20 then .error (.invalidChar c .inString) else readString fuel (c :: acc) rest

def isDigit (c : Char) : Bool := '0' ≤ c && c ≤ '9'

def readNumber (cs : List Char) : Except SyntaxError (String × List Char) :=
  let (neg, afterSign) := match cs with
    | '-' :: r => (true, r)
    | r => (false, r)
  let intPart : Except SyntaxError (List Char × List Char) :=
    match afterSign with
    | '0' :: r => .ok (['0'], r)
    | c :: _ =>
      if isDigit c then .ok (afterSign.takeWhile isDigit, afterSign.dropWhile isDigit)
      else .error (.invalidChar c .inNumber)
    | [] => .error .unexpectedEnd
  match intPart with
  | .error e => .error e
  | .ok (ip, r1) =>
    let fracPart : Except SyntaxError (List Char × List Char) :=
      match r1 with
      | '.' :: r =>
        match r with
        | c :: _ =>
          if isDigit c then .ok ('.' :: r.takeWhile isDigit, r.dropWhile isDigit)
          else .error (.invalidChar c .inNumber)
        | [] => .error .unexpectedEnd
      | _ => .ok ([], r1)
    match fracPart with
    | .error e => .error e
    | .ok (fp, r2) =>
      let expPart : Except SyntaxError (List Char × List Char) :=
        match r2 with
        | e :: r =>
          if e == 'e' || e == 'E' then
            let (sgn, r') := match r with
              | '+' :: t => (['+'], t)
              | '-' :: t => (['-'], t)
              | t => ([], t)
            match r' with
            | c :: _ =>
              if isDigit c then .ok (e :: sgn ++ r'.takeWhile isDigit, r'.dropWhile isDigit)
              else .error (.invalidChar c .inNumber)
            | [] => .error .unexpectedEnd
          else .ok ([], r2)
        | [] => .ok ([], r2)
      match expPart with
      | .error e => .error e
      | .ok (ep, r3) =>
        .ok (String.ofList ((if neg then ['-'] else []) ++ ip ++ fp ++ ep), r3)

def readWord (word : String) : List Char → List Char → Except SyntaxError (List Char)
  | [], rest => .ok rest
  | w :: ws, c :: rest => if c == w then readWord word ws rest else .error (.invalidChar c (.inLiteral word w))
  | _ :: _, [] => .error .unexpectedEnd

mutual
def readValue : Nat → Reader Json
  | 0, _ => .error .unexpectedEnd
  | fuel + 1, cs =>
    match cs.dropWhile isSpace with
    | [] => .error .unexpectedEnd
    | c :: rest =>
      match c with
      | '{' => readMembers fuel true [] rest
      | '[' => readItems fuel true [] rest
      | '"' => (readString (rest.length + 1) [] rest).map fun (s, r) => (.string s, r)
      | 't' => (readWord "true" "rue".toList rest).map fun r => (.bool true, r)
      | 'f' => (readWord "false" "alse".toList rest).map fun r => (.bool false, r)
      | 'n' => (readWord "null" "ull".toList rest).map fun r => (.null, r)
      | _ =>
        if c == '-' || isDigit c then (readNumber (c :: rest)).map fun (n, r) => (.number n, r)
        else .error (.invalidChar c .valueStart)

def readMembers : Nat → Bool → List (String × Json) → Reader Json
  | 0, _, _, _ => .error .unexpectedEnd
  | fuel + 1, first, acc, cs =>
    match cs.dropWhile isSpace with
    | '}' :: rest => if first then .ok (.object [], rest) else failAt ['}'] .keyStart
    | '"' :: rest =>
      match readString (rest.length + 1) [] rest with
      | .error e => .error e
      | .ok (key, r1) =>
        match r1.dropWhile isSpace with
        | ':' :: r2 =>
          match readValue fuel r2 with
          | .error e => .error e
          | .ok (v, r3) =>
            let acc := (key, v) :: acc
            match r3.dropWhile isSpace with
            | ',' :: r4 => readMembers fuel false acc r4
            | '}' :: r4 => .ok (.object acc.reverse, r4)
            | r4 => failAt r4 .afterMember
        | r2 => failAt r2 .afterKey
    | r => failAt r .keyStart

def readItems : Nat → Bool → List Json → Reader Json
  | 0, _, _, _ => .error .unexpectedEnd
  | fuel + 1, first, acc, cs =>
    match cs.dropWhile isSpace with
    | ']' :: rest =>
      if first then .ok (.array [], rest) else failAt [']'] .valueStart
    | r =>
      match readValue fuel r with
      | .error e => .error e
      | .ok (v, r1) =>
        let acc := v :: acc
        match r1.dropWhile isSpace with
        | ',' :: r2 => readItems fuel false acc r2
        | ']' :: r2 => .ok (.array acc.reverse, r2)
        | r2 => failAt r2 .afterItem
end

def parse (s : String) : Except SyntaxError Json :=
  let cs := s.toList
  match readValue (cs.length + 1) cs with
  | .error e => .error e
  | .ok (v, rest) =>
    match rest.dropWhile isSpace with
    | [] => .ok v
    | c :: _ => .error (.invalidChar c .afterTopLevel)

def parsePrefix (s : String) : Except SyntaxError Json :=
  let cs := s.toList
  (readValue (cs.length + 1) cs).map (·.1)

end ProxyRouter.Json
