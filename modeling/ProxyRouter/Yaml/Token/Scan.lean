import ProxyRouter.Yaml.Token
/-!
Cutting YAML text into tokens.
-/
namespace ProxyRouter.Yaml

/-- A place where a simple key could start. -/
structure SimpleKey where
  possible : Bool := false
  required : Bool := false
  tokenNumber : Nat := 0
  mark : Mark := {}
deriving Repr, Inhabited

/-- The scanner's state. -/
structure Scanner where
  input : Array Char
  mark : Mark := {}
  streamStartProduced : Bool := false
  streamEndProduced : Bool := false
  flowLevel : Nat := 0
  queue : List Token := []
  tokensParsed : Nat := 0
  tokenAvailable : Bool := false
  indent : Int := -1
  indents : List Int := []
  simpleKeyAllowed : Bool := false
  simpleKeys : Array SimpleKey := #[]
  /-- how many characters from the start have been looked at or asked for -/
  reach : Nat := 0
deriving Repr, Inhabited

abbrev ScanM := StateT Scanner (Except Problem)

def isBlank (c : Char) : Bool := c == ' ' || c == '\t'

def isBreak (c : Char) : Bool :=
  c == '\r' || c == '\n' || c == '\x85' || c == '\u2028' || c == '\u2029'

def isEnd (c : Char) : Bool := c == '\x00'

def isBreakOrEnd (c : Char) : Bool := isBreak c || isEnd c

def isBlankOrEnd (c : Char) : Bool := isBlank c || isBreakOrEnd c

def isWordChar (c : Char) : Bool :=
  ('0' ≤ c && c ≤ '9') || ('a' ≤ c && c ≤ 'z') || ('A' ≤ c && c ≤ 'Z') || c == '_' || c == '-'

def isDigit (c : Char) : Bool := '0' ≤ c && c ≤ '9'

def isHexDigit (c : Char) : Bool :=
  isDigit c || ('a' ≤ c && c ≤ 'f') || ('A' ≤ c && c ≤ 'F')

def hexValue (c : Char) : Nat :=
  if 'A' ≤ c && c ≤ 'F' then c.toNat - 'A'.toNat + 10
  else if 'a' ≤ c && c ≤ 'f' then c.toNat - 'a'.toNat + 10
  else c.toNat - '0'.toNat

def Scanner.fuel (s : Scanner) : Nat := s.input.size + 4

def Scanner.charAt (s : Scanner) (k : Nat) : Char := s.input.getD (s.mark.index + k) '\x00'

namespace Scan

def peek (k : Nat) : ScanM Char := do
  modify fun s => { s with reach := max s.reach (s.mark.index + k + 1) }
  return (← get).charAt k

def here : ScanM Mark := do return (← get).mark

def skip : ScanM Unit := modify fun s =>
  { s with mark := { s.mark with index := s.mark.index + 1, column := s.mark.column + 1 } }

def newLine (width : Nat) : ScanM Unit := modify fun s =>
  { s with mark := { index := s.mark.index + width, line := s.mark.line + 1, column := 0 } }

def skipLine : ScanM Unit := do
  let c ← peek 0
  if c == '\r' && (← peek 1) == '\n' then newLine 2
  else if isBreak c then newLine 1

def readChar (acc : String) : ScanM String := do
  let c ← peek 0
  skip
  return acc.push c

/-- Step over a line break, adding it to `acc`: a line feed for carriage return, line feed and
next line, the separators as they are. -/
def readLine (acc : String) : ScanM String := do
  let c ← peek 0
  if c == '\r' && (← peek 1) == '\n' then
    newLine 2
    return acc.push '\n'
  else if c == '\r' || c == '\n' || c == '\x85' then
    newLine 1
    return acc.push '\n'
  else if c == '\u2028' || c == '\u2029' then
    newLine 1
    return acc.push c
  else return acc

def fail {α : Type} (context : String) (contextMark : Mark) (problem : String) : ScanM α := do
  throw { stage := .tokens, context := context, contextMark := contextMark, problem := problem,
          problemMark := ← here, reach := (← get).reach }

def insertAt {α : Type} : List α → Nat → α → List α
  | xs, 0, a => a :: xs
  | [], _, a => [a]
  | x :: xs, n + 1, a => x :: insertAt xs n a

def enqueue (t : Token) (at? : Option Nat := none) : ScanM Unit := modify fun s =>
  match at? with
  | none => { s with queue := s.queue ++ [t] }
  | some i => { s with queue := insertAt s.queue i t }

def emit (kind : TokenKind) (width : Nat) : ScanM Unit := do
  let start ← here
  for _ in [0:width] do skip
  enqueue ⟨kind, start, ← here⟩

def allowKey (b : Bool) : ScanM Unit := modify fun s => { s with simpleKeyAllowed := b }

def topKey : ScanM Nat := do return (← get).simpleKeys.size - 1

def keyAt (i : Nat) : ScanM SimpleKey := do return (← get).simpleKeys.getD i {}

def setKey (i : Nat) (k : SimpleKey) : ScanM Unit := modify fun s =>
  { s with simpleKeys := s.simpleKeys.modify i fun _ => k }

/-- Whether the key at an index can still be a simple key; one that can no longer be, because
a line or 1024 characters have passed, is dropped, and if it had to be a key that is a
problem. -/
def keyStillPossible (i : Nat) : ScanM Bool := do
  let k ← keyAt i
  if !k.possible then return false
  let m ← here
  if k.mark.line < m.line || k.mark.index + 1024 < m.index then
    if k.required then fail "while scanning a simple key" k.mark "could not find expected ':'"
    setKey i { k with possible := false }
    return false
  return true

def removeSimpleKey : ScanM Unit := do
  let i ← topKey
  let k ← keyAt i
  if k.possible then
    if k.required then fail "while scanning a simple key" k.mark "could not find expected ':'"
    setKey i { k with possible := false }

/-- Note that the next token could be a simple key. In block context it must be one when it
stands at the current indentation. -/
def saveSimpleKey : ScanM Unit := do
  let s ← get
  if s.simpleKeyAllowed then
    let key : SimpleKey := {
      possible := true
      required := s.flowLevel == 0 && s.indent == (s.mark.column : Int)
      tokenNumber := s.tokensParsed + s.queue.length
      mark := s.mark }
    removeSimpleKey
    setKey (← topKey) key

def increaseFlowLevel : ScanM Unit := do
  let s ← get
  let key : SimpleKey := { tokenNumber := s.tokensParsed + s.queue.length, mark := s.mark }
  set { s with simpleKeys := s.simpleKeys.push key, flowLevel := s.flowLevel + 1 }
  if s.flowLevel + 1 > 10000 then
    fail "while increasing flow level" key.mark "exceeded max depth of 10000"

def decreaseFlowLevel : ScanM Unit := modify fun s =>
  if s.flowLevel > 0 then { s with flowLevel := s.flowLevel - 1, simpleKeys := s.simpleKeys.pop }
  else s

/-- In block context, open a collection at `column` when it is right of the indentation: the
start token goes last, or at the place of token number `number`. -/
def rollIndent (column : Nat) (number : Option Nat) (kind : TokenKind) (mark : Mark) :
    ScanM Unit := do
  let s ← get
  if s.flowLevel == 0 && s.indent < (column : Int) then
    set { s with indents := s.indent :: s.indents, indent := column }
    if s.indents.length + 1 > 10000 then
      let k ← keyAt (← topKey)
      fail "while increasing indent level" k.mark "exceeded max depth of 10000"
    enqueue ⟨kind, mark, mark⟩ (number.map (· - s.tokensParsed))

def unrollIndent (column : Int) (scanMark : Mark) : ScanM Unit := do
  let blockMark := { scanMark with index := scanMark.index - 1 }
  for _ in [0:(← get).indents.length + 1] do
    let s ← get
    if s.flowLevel > 0 || s.indent ≤ column then break
    let (top, rest) := match s.indents with
      | top :: rest => (top, rest)
      | [] => (-1, [])
    set { s with
      queue := s.queue ++ [Token.mk .blockEnd blockMark blockMark]
      indent := top
      indents := rest }

def fetchStreamStart : ScanM Unit := do
  modify fun s => { s with
    indent := -1
    simpleKeys := #[{}]
    simpleKeyAllowed := true
    streamStartProduced := true }
  let m ← here
  enqueue ⟨.streamStart, m, m⟩

def fetchStreamEnd : ScanM Unit := do
  modify fun s =>
    if s.mark.column != 0 then { s with mark := { s.mark with column := 0, line := s.mark.line + 1 } }
    else s
  unrollIndent (-1) (← here)
  removeSimpleKey
  allowKey false
  let m ← here
  enqueue ⟨.streamEnd, m, m⟩

/-- Step over a comment and the comment lines after it that only blanks and breaks separate,
looking at most 512 characters ahead. -/
def skipComments : ScanM Unit := do
  let fuel := (← get).fuel
  let mut ahead := 0
  for _ in [0:fuel] do
    if ahead ≥ 512 then break
    let c ← peek ahead
    if isBlank c then
      ahead := ahead + 1
      continue
    let s ← get
    if (s.flowLevel > 0 && (c == ']' || c == '}')) || isBreakOrEnd c then
      if !isBreak c then break
      ahead := ahead + 1
      continue
    if c != '#' then break
    let seen := s.mark.index + ahead
    for _ in [0:fuel] do
      let c ← peek 0
      if isBreakOrEnd c then
        if (← here).index ≥ seen then break
        skipLine
      else skip
    ahead := 1

/-- Step over blanks, comments and line breaks up to the next token. A line break in block
context allows a simple key; tabs are skipped only where no simple key may start. -/
def skipToNextToken : ScanM Unit := do
  let fuel := (← get).fuel
  for _ in [0:fuel] do
    if (← here).column == 0 && (← peek 0) == '\uFEFF' then skip
    for _ in [0:fuel] do
      let c ← peek 0
      let s ← get
      if c == ' ' || ((s.flowLevel > 0 || !s.simpleKeyAllowed) && c == '\t') then skip else break
    if (← peek 0) == '#' then skipComments
    if isBreak (← peek 0) then
      skipLine
      if (← get).flowLevel == 0 then allowKey true
    else break

def tagContext (directive : Bool) : String :=
  if directive then "while parsing a %TAG directive" else "while parsing a tag"

def scanTagHandle (directive : Bool) (start : Mark) : ScanM String := do
  if (← peek 0) != '!' then fail (tagContext directive) start "did not find expected '!'"
  let mut text ← readChar ""
  for _ in [0:(← get).fuel] do
    if isWordChar (← peek 0) then text ← readChar text else break
  if (← peek 0) == '!' then text ← readChar text
  else if directive && text != "!" then fail (tagContext directive) start "did not find expected '!'"
  return text

def sequenceWidth (b : Nat) : Nat :=
  if b < 0x80 then 1
  else if b / 32 == 6 then 2
  else if b / 16 == 14 then 3
  else if b / 8 == 30 then 4
  else 0

def scanUriEscapes (directive : Bool) (start : Mark) (acc : String) : ScanM String := do
  let mut bytes : Array UInt8 := #[]
  let mut width := 0
  for _ in [0:4] do
    let c0 ← peek 0
    let c1 ← peek 1
    let c2 ← peek 2
    if !(c0 == '%' && isHexDigit c1 && isHexDigit c2) then
      fail (tagContext directive) start "did not find URI escaped octet"
    let octet := hexValue c1 * 16 + hexValue c2
    if bytes.isEmpty then
      width := sequenceWidth octet
      if width == 0 then fail (tagContext directive) start "found an incorrect leading UTF-8 octet"
    else if octet / 64 != 2 then
      fail (tagContext directive) start "found an incorrect trailing UTF-8 octet"
    bytes := bytes.push octet.toUInt8
    skip
    skip
    skip
    if bytes.size == width then break
  match String.fromUTF8? (ByteArray.mk bytes) with
  | some t => return acc ++ t
  | none => return acc.push '\uFFFD'

/-- Read the rest of a tag after its handle; `head` is what was read as handle already, of
which all but the first `!` belongs to the tag. -/
def scanTagUri (uriChar directive : Bool) (head : String) (start : Mark) : ScanM String := do
  let mut text := String.ofList (head.toList.drop 1)
  let mut any := !head.isEmpty
  for _ in [0:(← get).fuel] do
    let c ← peek 0
    if isWordChar c || ";/?:@&=+$.%!~*'()".contains c || (uriChar && ",[]".contains c) then
      if c == '%' then text ← scanUriEscapes directive start text
      else text ← readChar text
      any := true
    else break
  if !any then fail (tagContext directive) start "did not find expected tag URI"
  return text

def scanTag : ScanM Token := do
  let start ← here
  let (handle, suffix) ← do
    if (← peek 1) == '<' then
      skip
      skip
      let suffix ← scanTagUri true false "" start
      if (← peek 0) != '>' then
        fail "while scanning a tag" start "did not find the expected '>'"
      skip
      pure ("", suffix)
    else
      let handle ← scanTagHandle false start
      if handle.length > 1 && handle.startsWith "!" && handle.endsWith "!" then
        pure (handle, ← scanTagUri false false "" start)
      else
        let suffix ← scanTagUri false false handle start
        if suffix.isEmpty then pure ("", "!") else pure ("!", suffix)
  let c ← peek 0
  if !isBlankOrEnd c && !((← get).flowLevel > 0 && c == ',') then
    fail "while scanning a tag" start "did not find expected whitespace or line break"
  return ⟨.tag handle suffix, start, ← here⟩

def scanAnchor (isAlias : Bool) : ScanM Token := do
  let start ← here
  skip
  let mut name := ""
  for _ in [0:(← get).fuel] do
    if isWordChar (← peek 0) then name ← readChar name else break
  let stop ← here
  let c ← peek 0
  if name.isEmpty || !(isBlankOrEnd c || "?:,]\x7d%@".contains c || c == '\x60') then
    fail (if isAlias then "while scanning an alias" else "while scanning an anchor") start
      "did not find expected alphabetic or numeric character"
  return ⟨if isAlias then .alias name else .anchor name, start, stop⟩

def finishDirectiveLine (start : Mark) : ScanM Unit := do
  let fuel := (← get).fuel
  for _ in [0:fuel] do
    if isBlank (← peek 0) then skip else break
  if (← peek 0) == '#' then
    for _ in [0:fuel] do
      if isBreakOrEnd (← peek 0) then break
      skip
  if !isBreakOrEnd (← peek 0) then
    fail "while scanning a directive" start "did not find expected comment or line break"
  if isBreak (← peek 0) then skipLine

def scanVersionNumber (start : Mark) : ScanM Nat := do
  let mut value := 0
  let mut length := 0
  for _ in [0:(← get).fuel] do
    let c ← peek 0
    if !isDigit c then break
    length := length + 1
    if length > 9 then
      fail "while scanning a %YAML directive" start "found extremely long version number"
    value := value * 10 + (c.toNat - '0'.toNat)
    skip
  if length == 0 then
    fail "while scanning a %YAML directive" start "did not find expected version number"
  return value

def scanDirective : ScanM Token := do
  let start ← here
  skip
  let mut name := ""
  for _ in [0:(← get).fuel] do
    if isWordChar (← peek 0) then name ← readChar name else break
  if name.isEmpty then
    fail "while scanning a directive" start "could not find expected directive name"
  if !isBlankOrEnd (← peek 0) then
    fail "while scanning a directive" start "found unexpected non-alphabetical character"
  let fuel := (← get).fuel
  let token ← do
    if name == "YAML" then
      for _ in [0:fuel] do
        if isBlank (← peek 0) then skip else break
      let major ← scanVersionNumber start
      if (← peek 0) != '.' then
        fail "while scanning a %YAML directive" start "did not find expected digit or '.' character"
      skip
      let minor ← scanVersionNumber start
      pure (Token.mk (.versionDirective major minor) start (← here))
    else if name == "TAG" then
      for _ in [0:fuel] do
        if isBlank (← peek 0) then skip else break
      let handle ← scanTagHandle true start
      if !isBlank (← peek 0) then
        fail "while scanning a %TAG directive" start "did not find expected whitespace"
      for _ in [0:fuel] do
        if isBlank (← peek 0) then skip else break
      let pfx ← scanTagUri true true "" start
      if !isBlankOrEnd (← peek 0) then
        fail "while scanning a %TAG directive" start "did not find expected whitespace or line break"
      pure (Token.mk (.tagDirective handle pfx) start (← here))
    else
      fail "while scanning a directive" start "found unknown directive name"
  finishDirectiveLine start
  return token

/-- Read the indentation and blank lines before the content of a block scalar; with no
indentation given, the deepest blank line before the first non-blank one sets it. -/
def blockBreaks (indent : Int) (breaks : String) (start : Mark) : ScanM (Int × String × Mark) := do
  let fuel := (← get).fuel
  let mut indent := indent
  let mut breaks := breaks
  let mut maxIndent : Nat := 0
  let mut stop ← here
  for _ in [0:fuel] do
    for _ in [0:fuel] do
      let m ← here
      if (indent == 0 || (m.column : Int) < indent) && (← peek 0) == ' ' then skip else break
    let m ← here
    if m.column > maxIndent then maxIndent := m.column
    if (indent == 0 || (m.column : Int) < indent) && (← peek 0) == '\t' then
      fail "while scanning a block scalar" start "found a tab character where an indentation space is expected"
    if !isBreak (← peek 0) then break
    breaks ← readLine breaks
    stop ← here
  if indent == 0 then
    indent := max (maxIndent : Int) ((← get).indent + 1)
    if indent < 1 then indent := 1
  return (indent, breaks, stop)

def scanBlockScalar (literal : Bool) : ScanM Token := do
  let start ← here
  let fuel := (← get).fuel
  skip
  let mut chomping : Int := 0
  let mut increment : Nat := 0
  let c ← peek 0
  if c == '+' || c == '-' then
    chomping := if c == '+' then 1 else -1
    skip
    let d ← peek 0
    if isDigit d then
      if d == '0' then
        fail "while scanning a block scalar" start "found an indentation indicator equal to 0"
      increment := d.toNat - '0'.toNat
      skip
  else if isDigit c then
    if c == '0' then
      fail "while scanning a block scalar" start "found an indentation indicator equal to 0"
    increment := c.toNat - '0'.toNat
    skip
    let d ← peek 0
    if d == '+' || d == '-' then
      chomping := if d == '+' then 1 else -1
      skip
  for _ in [0:fuel] do
    if isBlank (← peek 0) then skip else break
  if (← peek 0) == '#' then
    for _ in [0:fuel] do
      if isBreakOrEnd (← peek 0) then break
      skip
  if !isBreakOrEnd (← peek 0) then
    fail "while scanning a block scalar" start "did not find expected comment or line break"
  if isBreak (← peek 0) then skipLine
  let mut stop ← here
  let s ← get
  let mut indent : Int := 0
  if increment > 0 then
    indent := if s.indent ≥ 0 then s.indent + increment else increment
  let (ind, breaks, st) ← blockBreaks indent "" start
  indent := ind
  let mut trailingBreaks := breaks
  stop := st
  let mut text := ""
  let mut leadingBreak := ""
  let mut leadingBlank := false
  let mut trailingBlank := false
  for _ in [0:fuel] do
    let m ← here
    if !((m.column : Int) == indent && !isEnd (← peek 0)) then break
    trailingBlank := isBlank (← peek 0)
    if !literal && leadingBreak.startsWith "\n" && !leadingBlank && !trailingBlank then
      if trailingBreaks.isEmpty then text := text.push ' '
      leadingBreak := ""
    else
      text := text ++ leadingBreak
      leadingBreak := ""
    text := text ++ trailingBreaks
    trailingBreaks := ""
    leadingBlank := isBlank (← peek 0)
    for _ in [0:fuel] do
      if isBreakOrEnd (← peek 0) then break
      text ← readChar text
    if isEnd (← peek 0) then break
    leadingBreak ← readLine leadingBreak
    let (ind, breaks, st) ← blockBreaks indent "" start
    indent := ind
    trailingBreaks := breaks
    stop := st
  if chomping != -1 then text := text ++ leadingBreak
  if chomping == 1 then text := text ++ trailingBreaks
  return ⟨.scalar text (if literal then .literal else .folded), start, stop⟩

/-- Join the breaks and blanks between two runs of a flow or plain scalar: one line break
folds to a space, more keep all but the first. -/
def joinBreaks (text leadingBreak trailingBreaks : String) : String :=
  if leadingBreak.startsWith "\n" then
    if trailingBreaks.isEmpty then text.push ' ' else text ++ trailingBreaks
  else text ++ leadingBreak ++ trailingBreaks

def scanEscape (text : String) (start : Mark) : ScanM String := do
  let n ← peek 1
  let simple : Option Char := match n with
    | '0' => some '\x00'
    | 'a' => some '\x07'
    | 'b' => some '\x08'
    | 't' | '\t' => some '\t'
    | 'n' => some '\n'
    | 'v' => some '\x0b'
    | 'f' => some '\x0c'
    | 'r' => some '\r'
    | 'e' => some '\x1b'
    | ' ' => some ' '
    | '"' => some '"'
    | '\'' => some '\''
    | '\\' => some '\\'
    | 'N' => some '\x85'
    | '_' => some '\xa0'
    | 'L' => some '\u2028'
    | 'P' => some '\u2029'
    | _ => none
  let length : Nat := match n with
    | 'x' => 2
    | 'u' => 4
    | 'U' => 8
    | _ => 0
  match simple with
  | some c =>
    skip
    skip
    return text.push c
  | none =>
    if length == 0 then
      fail "while parsing a quoted scalar" start "found unknown escape character"
    skip
    skip
    let mut value := 0
    for k in [0:length] do
      let h ← peek k
      if !isHexDigit h then
        fail "while parsing a quoted scalar" start "did not find expected hexdecimal number"
      value := value * 16 + hexValue h
    if (0xD800 ≤ value && value ≤ 0xDFFF) || value > 0x10FFFF then
      fail "while parsing a quoted scalar" start "found invalid Unicode character escape code"
    for _ in [0:length] do skip
    return text.push (Char.ofNat value)

def atDocumentMarker : ScanM Bool := do
  let m ← here
  let c0 ← peek 0
  let c1 ← peek 1
  let c2 ← peek 2
  let c3 ← peek 3
  return m.column == 0 &&
    ((c0 == '-' && c1 == '-' && c2 == '-') || (c0 == '.' && c1 == '.' && c2 == '.')) &&
    isBlankOrEnd c3

def scanFlowScalar (single : Bool) : ScanM Token := do
  let start ← here
  let fuel := (← get).fuel
  skip
  let mut text := ""
  let mut leadingBreak := ""
  let mut trailingBreaks := ""
  let mut whitespaces := ""
  for _ in [0:fuel] do
    if ← atDocumentMarker then
      fail "while scanning a quoted scalar" start "found unexpected document indicator"
    if isEnd (← peek 0) then
      fail "while scanning a quoted scalar" start "found unexpected end of stream"
    let mut leadingBlanks := false
    for _ in [0:fuel] do
      let c ← peek 0
      if isBlankOrEnd c then break
      let n ← peek 1
      if single && c == '\'' && n == '\'' then
        text := text.push '\''
        skip
        skip
      else if (single && c == '\'') || (!single && c == '"') then break
      else if !single && c == '\\' && isBreak n then
        skip
        skipLine
        leadingBlanks := true
        break
      else if !single && c == '\\' then
        text ← scanEscape text start
      else
        text ← readChar text
    let c ← peek 0
    if (single && c == '\'') || (!single && c == '"') then break
    for _ in [0:fuel] do
      let c ← peek 0
      if !(isBlank c || isBreak c) then break
      if isBlank c then
        if !leadingBlanks then whitespaces ← readChar whitespaces else skip
      else if !leadingBlanks then
        whitespaces := ""
        leadingBreak ← readLine leadingBreak
        leadingBlanks := true
      else
        trailingBreaks ← readLine trailingBreaks
    if leadingBlanks then
      text := joinBreaks text leadingBreak trailingBreaks
      leadingBreak := ""
      trailingBreaks := ""
    else
      text := text ++ whitespaces
      whitespaces := ""
  skip
  return ⟨.scalar text (if single then .singleQuoted else .doubleQuoted), start, ← here⟩

/-- Read a plain scalar. It ends before `: ` and a comment, before flow indicators inside flow
collections, at a document marker, and at a line left of the indentation in block context. -/
def scanPlainScalar : ScanM Token := do
  let s0 ← get
  let indent : Int := s0.indent + 1
  let start := s0.mark
  let fuel := s0.fuel
  let mut stop := s0.mark
  let mut text := ""
  let mut leadingBreak := ""
  let mut trailingBreaks := ""
  let mut whitespaces := ""
  let mut leadingBlanks := false
  for _ in [0:fuel] do
    if ← atDocumentMarker then break
    if (← peek 0) == '#' then break
    for _ in [0:fuel] do
      let c ← peek 0
      if isBlankOrEnd c then break
      let n ← peek 1
      let flow := (← get).flowLevel > 0
      if (c == ':' && isBlankOrEnd n) || (flow && ",?[]\x7b\x7d".contains c) then break
      if leadingBlanks then
        text := joinBreaks text leadingBreak trailingBreaks
        leadingBreak := ""
        trailingBreaks := ""
        leadingBlanks := false
      else if !whitespaces.isEmpty then
        text := text ++ whitespaces
        whitespaces := ""
      text ← readChar text
      stop ← here
    let c ← peek 0
    if !(isBlank c || isBreak c) then break
    for _ in [0:fuel] do
      let c ← peek 0
      if !(isBlank c || isBreak c) then break
      if isBlank c then
        if leadingBlanks && ((← here).column : Int) < indent && c == '\t' then
          fail "while scanning a plain scalar" start "found a tab character that violates indentation"
        if !leadingBlanks then whitespaces ← readChar whitespaces else skip
      else if !leadingBlanks then
        whitespaces := ""
        leadingBreak ← readLine leadingBreak
        leadingBlanks := true
      else
        trailingBreaks ← readLine trailingBreaks
    let s ← get
    if s.flowLevel == 0 && (s.mark.column : Int) < indent then break
  if leadingBlanks then allowKey true
  return ⟨.scalar text .plain, start, stop⟩

def fetchDocumentIndicator (kind : TokenKind) : ScanM Unit := do
  unrollIndent (-1) (← here)
  removeSimpleKey
  allowKey false
  emit kind 3

def fetchFlowCollectionStart (kind : TokenKind) : ScanM Unit := do
  saveSimpleKey
  increaseFlowLevel
  allowKey true
  emit kind 1

def fetchFlowCollectionEnd (kind : TokenKind) : ScanM Unit := do
  removeSimpleKey
  decreaseFlowLevel
  allowKey false
  emit kind 1

def fetchFlowEntry : ScanM Unit := do
  removeSimpleKey
  allowKey true
  emit .flowEntry 1

def fetchBlockEntry : ScanM Unit := do
  let s ← get
  if s.flowLevel == 0 then
    if !s.simpleKeyAllowed then
      fail "" s.mark "block sequence entries are not allowed in this context"
    rollIndent s.mark.column none .blockSequenceStart s.mark
  removeSimpleKey
  allowKey true
  emit .blockEntry 1

def fetchKey : ScanM Unit := do
  let s ← get
  if s.flowLevel == 0 then
    if !s.simpleKeyAllowed then
      fail "" s.mark "mapping keys are not allowed in this context"
    rollIndent s.mark.column none .blockMappingStart s.mark
  removeSimpleKey
  allowKey (s.flowLevel == 0)
  emit .key 1

/-- `: ` of a mapping. When a simple key is possible the key token goes before it (and in block
context the start of the mapping before that); otherwise the value needs no key. -/
def fetchValue : ScanM Unit := do
  let i ← topKey
  if ← keyStillPossible i then
    let k ← keyAt i
    let parsed := (← get).tokensParsed
    enqueue ⟨.key, k.mark, k.mark⟩ (some (k.tokenNumber - parsed))
    rollIndent k.mark.column (some k.tokenNumber) .blockMappingStart k.mark
    setKey i { k with possible := false }
    allowKey false
  else
    let s ← get
    if s.flowLevel == 0 then
      if !s.simpleKeyAllowed then
        fail "" s.mark "mapping values are not allowed in this context"
      rollIndent s.mark.column none .blockMappingStart s.mark
    allowKey (s.flowLevel == 0)
  emit .value 1

def fetchNextToken : ScanM Unit := do
  let s ← get
  if !s.streamStartProduced then
    fetchStreamStart
    return
  skipToNextToken
  let s ← get
  unrollIndent s.mark.column s.mark
  let c ← peek 0
  let c1 ← peek 1
  let m ← here
  let flow := (← get).flowLevel > 0
  if isEnd c then fetchStreamEnd
  else if m.column == 0 && c == '%' then
    let t ← do
      unrollIndent (-1) m
      removeSimpleKey
      allowKey false
      scanDirective
    enqueue t
  else if (← atDocumentMarker) && c == '-' then fetchDocumentIndicator .documentStart
  else if (← atDocumentMarker) && c == '.' then fetchDocumentIndicator .documentEnd
  else if c == '[' then fetchFlowCollectionStart .flowSequenceStart
  else if c == '{' then fetchFlowCollectionStart .flowMappingStart
  else if c == ']' then fetchFlowCollectionEnd .flowSequenceEnd
  else if c == '}' then fetchFlowCollectionEnd .flowMappingEnd
  else if c == ',' then fetchFlowEntry
  else if c == '-' && isBlankOrEnd c1 then fetchBlockEntry
  else if c == '?' && (flow || isBlankOrEnd c1) then fetchKey
  else if c == ':' && (flow || isBlankOrEnd c1) then fetchValue
  else if c == '*' || c == '&' then
    saveSimpleKey
    allowKey false
    enqueue (← scanAnchor (c == '*'))
  else if c == '!' then
    saveSimpleKey
    allowKey false
    enqueue (← scanTag)
  else if (c == '|' || c == '>') && !flow then
    removeSimpleKey
    allowKey true
    enqueue (← scanBlockScalar (c == '|'))
  else if c == '\'' || c == '"' then
    saveSimpleKey
    allowKey false
    enqueue (← scanFlowScalar (c == '\''))
  else if !(isBlankOrEnd c || "-?:,[]\x7b\x7d#&*!|>'\"%@".contains c || c == '\x60') ||
      (c == '-' && !isBlank c1) || (!flow && (c == '?' || c == ':') && !isBlankOrEnd c1) then
    saveSimpleKey
    allowKey false
    enqueue (← scanPlainScalar)
  else
    fail "while scanning for the next token" m "found character that cannot start any token"

def fetchMoreTokens : ScanM Unit := do
  for _ in [0:(← get).fuel * 4] do
    let s ← get
    if s.queue.length > 2 then
      match s.simpleKeys.findIdx? (fun k => k.possible && k.tokenNumber == s.tokensParsed) with
      | none => break
      | some i => if !(← keyStillPossible i) then break
    fetchNextToken
  modify fun s => { s with tokenAvailable := true }

def peekToken : ScanM Token := do
  if !(← get).tokenAvailable then fetchMoreTokens
  match (← get).queue with
  | t :: _ => return t
  | [] => return ⟨.streamEnd, ← here, ← here⟩

def skipToken : ScanM Unit := modify fun s =>
  match s.queue with
  | t :: rest =>
    { s with
      tokenAvailable := false
      tokensParsed := s.tokensParsed + 1
      streamEndProduced := match t.kind with
        | .streamEnd => true
        | _ => s.streamEndProduced
      queue := rest }
  | [] => s

end Scan

def Scanner.start (text : String) : Scanner :=
  let cs := text.toList
  { input := (match cs with
      | '\uFEFF' :: rest => rest
      | _ => cs).toArray }

end ProxyRouter.Yaml
