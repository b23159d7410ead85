import ProxyRouter.Text.Quote
import ProxyRouter.Text.Blank
/-!
Environment files: `KEY=VALUE` lines, as read before the configuration.
-/
namespace ProxyRouter.Config

def isLineSpace (c : Char) : Bool :=
  c == '\t' || c == '\x0b' || c == '\x0c' || c == '\r' || c == ' ' || c == '\x85' || c == '\xa0'

def isKeyChar (c : Char) : Bool := c.isAlphanum || c == '_' || c == '.' || c.toNat > 0x7f

def isReferenceChar (c : Char) : Bool := ('A' ≤ c && c ≤ 'Z') || c.isDigit || c == '_'

/-- The text of a reference after `$` (an optional `(`, an optional `{`, a name, an optional
`}`), the name, and what follows. -/
def splitReference (rest : List Char) : List Char × List Char × List Char :=
  let paren := rest.head? == some '('
  let rest := if paren then rest.drop 1 else rest
  let braced := rest.head? == some '{'
  let body := if braced then rest.drop 1 else rest
  let name := body.takeWhile isReferenceChar
  let after := body.drop name.length
  let closing := after.head? == some '}'
  ((if paren then ['('] else []) ++ (if braced then ['{'] else []) ++ name ++
    (if closing then ['}'] else []), name, if closing then after.drop 1 else after)

/-- Replace each reference `$KEY`, `${KEY}`, `$(KEY` or `$({KEY}` by the value of `lookup`, a
missing key by nothing; a backslash before `$` is dropped and keeps the reference as it is, and
a `$` without a name stays. `fuel` bounds the references replaced. -/
def expandReferences (lookup : String → Option String) : Nat → List Char → List Char
  | 0, cs => cs
  | _, [] => []
  | fuel + 1, '\\' :: '$' :: rest =>
    let (matched, _, after) := splitReference rest
    '$' :: matched ++ expandReferences lookup fuel after
  | fuel + 1, '$' :: rest =>
    let (matched, name, after) := splitReference rest
    if name.isEmpty then '$' :: matched ++ expandReferences lookup fuel after
    else ((lookup (String.ofList name)).getD "").toList ++ expandReferences lookup fuel after
  | fuel + 1, c :: rest => c :: expandReferences lookup fuel rest

def expandText (lookup : String → Option String) (s : String) : String :=
  String.ofList (expandReferences lookup (s.length + 1) s.toList)

/-- Undo the escapes of a double-quoted value: `\n` and `\r` become line breaks, and a
backslash before any other character but `$` is dropped. -/
def unescapeValue : List Char → List Char
  | '\\' :: 'n' :: rest => '\n' :: unescapeValue rest
  | '\\' :: 'r' :: rest => '\r' :: unescapeValue rest
  | '\\' :: c :: rest => if c == '$' then '\\' :: '$' :: unescapeValue rest else c :: unescapeValue rest
  | c :: rest => c :: unescapeValue rest
  | [] => []

/-- An unquoted value: up to the line end, a comment that a blank and `#` start dropped, without
surrounding blanks. -/
def plainValue (chars : List Char) : String :=
  let cut := (List.range chars.length).reverse.find? fun i =>
    i > 0 && chars[i]? == some '#' && (chars[i - 1]?.map isLineSpace).getD false
  let kept := match cut with
    | some i => chars.take i
    | none => chars
  String.ofList ((kept.dropWhile isLineSpace).reverse.dropWhile isLineSpace).reverse

/-- A byte that may stand in a key name, read as a Latin-1 character: a letter, a digit or
number sign, `_` or `.`. -/
def isKeyByte (b : Nat) : Bool :=
  let c := Char.ofNat b
  c.isAlphanum || c == '_' || c == '.' || b == 0xAA || b == 0xB5 || b == 0xBA || b == 0xB2 ||
    b == 0xB3 || b == 0xB9 || (0xBC ≤ b && b ≤ 0xBE) || (0xC0 ≤ b && b != 0xD7 && b != 0xF7 && b ≤ 0xFF)

/-- Read the key of a statement, byte by byte, and the rest after its `=` or `:`; without a
delimiter the key is empty and the whole statement is the value. -/
def readEnvKey (src : List Char) : Except String (String × List Char) :=
  let src := src.dropWhile isLineSpace
  let src := match src with
    | 'e' :: 'x' :: 'p' :: 'o' :: 'r' :: 't' :: c :: rest =>
      if isLineSpace c then (c :: rest).dropWhile isLineSpace else src
    | _ => src
  go src [] src
where
  /-- Scan the key: `seen` are the characters before `rest`. -/
  go (src seen : List Char) : List Char → Except String (String × List Char)
    | [] => .ok ("", src)
    | c :: rest =>
      if c == '=' || c == ':' then
        .ok (String.ofList (seen.reverse.dropWhile Text.isBlank).reverse, rest.dropWhile isLineSpace)
      else
        let bytes := (String.singleton c).toUTF8.toList.map (·.toNat)
        match bytes.find? (fun b => !(isLineSpace (Char.ofNat b) || isKeyByte b)) with
        | some b => .error ("unexpected character " ++ Text.quote (String.singleton (Char.ofNat b)) ++
            " in variable name near " ++ Text.quote (String.ofList src))
        | none => go src (seen ++ [c]) rest

/-- The key-value pairs of an environment file, in order, with references expanded to values
the file has set before; or why the file is malformed. -/
def parseDotenv (text : String) : Except String (List (String × String)) :=
  let cs := (text.replace "\r\n" "\n").toList
  loop (cs.length + 1) cs []
where
  /-- The value the file has set for a key. -/
  find (acc : List (String × String)) (name : String) : Option String :=
    (acc.reverse.find? (·.1 == name)).map (·.2)
  /-- Read statements; `fuel` bounds how many. -/
  loop : Nat → List Char → List (String × String) → Except String (List (String × String))
    | 0, _, acc => .ok acc
    | fuel + 1, src, acc =>
      let src := src.dropWhile Text.isBlank
      match src with
      | [] => .ok acc
      | '#' :: _ =>
        match src.findIdx? (· == '\n') with
        | some i => loop fuel (src.drop i) acc
        | none => .ok acc
      | _ =>
        match readEnvKey src with
        | .error e => .error e
        | .ok (key, rest) =>
          match rest with
          | q :: body =>
            if q == '\'' || q == '"' then
              match body.findIdx? (· == q) with
              | some _ =>
                let close := closingQuote q (q :: body) 1
                match close with
                | some i =>
                  let inner := ((rest.take i).dropWhile (· == q)).reverse.dropWhile (· == q) |>.reverse
                  let value := if q == '"' then
                      expandText (find acc) (String.ofList (unescapeValue inner))
                    else String.ofList inner
                  loop fuel (rest.drop (i + 1)) (acc ++ [(key, value)])
                | none => .error (unterminated rest)
              | none => .error (unterminated rest)
            else plain fuel rest key acc
          | [] => plain fuel rest key acc
  /-- An unquoted value up to the end of its line. -/
  plain (fuel : Nat) (rest : List Char) (key : String) (acc : List (String × String)) :
      Except String (List (String × String)) :=
    let lineEnd := (rest.findIdx? (fun c => c == '\n' || c == '\r')).getD rest.length
    let value := expandText (find acc) (plainValue (rest.take lineEnd))
    loop fuel (rest.drop lineEnd) (acc ++ [(key, value)])
  /-- The place of the quote that closes a quoted value: the first `q` not after a
  backslash. -/
  closingQuote (q : Char) (src : List Char) (i : Nat) : Option Nat :=
    (List.range src.length).find? fun j => j ≥ i && src[j]? == some q && src[j - 1]? != some '\\'
  /-- The text of an unterminated quoted value. -/
  unterminated (rest : List Char) : String :=
    "unterminated quoted value " ++ String.ofList (rest.takeWhile (· != '\n'))

end ProxyRouter.Config
