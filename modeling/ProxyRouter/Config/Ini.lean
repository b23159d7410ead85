import ProxyRouter.Text.Blank
import ProxyRouter.Text.Quote
/-!
INI files: sections of `key = value` lines.
-/
namespace ProxyRouter.Config

/-- A section: its name and its keys with their values, in order. -/
structure IniSection where
  name : String
  entries : List (String × String) := []
deriving Repr, Inhabited

/-- An INI file: its sections in order, the default section first. -/
structure IniFile where
  sections : List IniSection := [{ name := "DEFAULT" }]
deriving Repr, Inhabited

def defaultSectionName : String := "DEFAULT"

def trimStart (s : String) : String := String.ofList (s.toList.dropWhile Text.isBlank)

def findSub (pat : List Char) (cs : List Char) : Option Nat :=
  go cs 0
where
  /-- Look from position `i`. -/
  go : List Char → Nat → Option Nat
    | [], i => if pat.isEmpty then some i else none
    | c :: rest, i => if pat.isPrefixOf (c :: rest) then some i else go rest (i + 1)

def findLastSub (pat : List Char) (cs : List Char) : Option Nat :=
  (List.range (cs.length + 1)).reverse.find? fun i => pat.isPrefixOf (cs.drop i)

def findAny (chars : List Char) (cs : List Char) : Option Nat := cs.findIdx? (chars.contains ·)

def surroundedBy (q : Char) (s : String) : Bool :=
  let cs := s.toList
  cs.length ≥ 2 && cs.head? == some q && cs.getLast? == some q && !((cs.drop 1).dropLast.contains q)

/-- Put a key into a section, replacing an earlier value. -/
def IniSection.put (sec : IniSection) (key value : String) : IniSection :=
  if sec.entries.any (·.1 == key) then
    { sec with entries := sec.entries.map fun e => if e.1 == key then (key, value) else e }
  else { sec with entries := sec.entries ++ [(key, value)] }

namespace IniFile

def openSection (f : IniFile) (name : String) : IniFile :=
  if f.sections.any (·.name == name) then f else { f with sections := f.sections ++ [{ name := name }] }

/-- Put a key into a section. -/
def put (f : IniFile) (sectionName key value : String) : IniFile :=
  { f with sections := f.sections.map fun s => if s.name == sectionName then s.put key value else s }

def findSection (f : IniFile) (name : String) : Option IniSection := f.sections.find? (·.name == name)

end IniFile

abbrev Lines := List String

def splitLines (text : String) : Lines :=
  let pieces := text.splitOn "\n"
  let n := pieces.length
  (pieces.zipIdx.filterMap fun (p, i) =>
    if i + 1 < n then some (p ++ "\n") else if p.isEmpty then none else some p)

/-- Read the lines that go on a value ending in a backslash: each without surrounding blanks,
until an empty one or one that does not end in a backslash. -/
def continuation (acc : String) : Lines → String × Lines
  | [] => (acc, [])
  | l :: rest =>
    let next := Text.trimBlank l
    if next.isEmpty then (acc, rest)
    else
      let acc := acc ++ next
      if acc.endsWith "\\" then continuation (String.ofList acc.toList.dropLast) rest
      else (acc, rest)

def quotedLines (first acc : String) (quote : String) : Lines → Except String (String × Lines)
  | [] => .error ("missing closing key quote from " ++ Text.quote first ++ " to " ++ Text.quote "")
  | l :: rest =>
    match findLastSub quote.toList l.toList with
    | some pos => .ok (acc ++ String.ofList (l.toList.take pos), rest)
    | none =>
      if rest.isEmpty && !l.endsWith "\n" then
        .error ("missing closing key quote from " ++ Text.quote first ++ " to " ++ Text.quote l)
      else quotedLines first (acc ++ l) quote rest

def readValue (text : String) (rest : Lines) : Except String (String × Lines) :=
  let line := trimStart text
  let cs := line.toList
  if cs.isEmpty then .ok ("", rest)
  else
    let quote :=
      if cs.length > 3 && cs.take 3 == ['"', '"', '"'] then "\"\"\""
      else if cs.head? == some '\x60' then "\x60"
      else ""
    if !quote.isEmpty then
      let body := cs.drop quote.length
      match findLastSub quote.toList body with
      | some pos => .ok (String.ofList (body.take pos), rest)
      | none => quotedLines line (String.ofList body) quote rest
    else
      let line := Text.trimBlank line
      if line.endsWith "\\" then .ok (continuation (String.ofList line.toList.dropLast) rest)
      else
        let line := match findAny ['#', ';'] line.toList with
          | some i => Text.trimBlank (String.ofList (line.toList.take i))
          | none => line
        if surroundedBy '\'' line || surroundedBy '"' line then
          .ok (String.ofList (line.toList.drop 1).dropLast, rest)
        else .ok (line, rest)

/-- Read a key name: the text before the first `=` or `:` (or a quoted name), and the rest of
the line after the delimiter. Three double quotes open a quoted name only on a line of more
than six bytes. -/
def readKey (line : String) : Except String (String × String) :=
  let cs := line.toList
  let quote :=
    if cs.head? == some '"' then
      (if line.utf8ByteSize > 6 && cs.take 3 == ['"', '"', '"'] then "\"\"\"" else "\"")
    else if cs.head? == some '\x60' then "\x60"
    else ""
  if !quote.isEmpty then
    let body := cs.drop quote.length
    match findSub quote.toList body with
    | none => .error ("missing closing key quote: " ++ line)
    | some pos =>
      let after := body.drop (pos + quote.length)
      match findAny ['=', ':'] after with
      | none => .error ("key-value delimiter not found: " ++ line)
      | some i => .ok (Text.trimBlank (String.ofList (body.take pos)), String.ofList (after.drop (i + 1)))
  else
    match findAny ['=', ':'] cs with
    | none => .error ("key-value delimiter not found: " ++ line)
    | some 0 => .error ("empty key name: " ++ line)
    | some i => .ok (Text.trimBlank (String.ofList (cs.take i)), String.ofList (cs.drop (i + 1)))

/-- Read the lines of a file into sections; `fuel` bounds the lines read. A key written `-` is
numbered: it becomes `#1`, `#2`, … in the order of its section, `count` being the next
number. -/
def readLines : Nat → IniFile → String → Nat → Lines → Except String IniFile
  | 0, f, _, _, _ => .ok f
  | _, f, _, _, [] => .ok f
  | fuel + 1, f, sectionName, count, raw :: rest =>
    let line := trimStart raw
    match line.toList with
    | [] => readLines fuel f sectionName count rest
    | c :: _ =>
      if c == '#' || c == ';' then readLines fuel f sectionName count rest
      else if c == '[' then
        match findLastSub [']'] line.toList with
        | none => .error ("unclosed section: " ++ line)
        | some close =>
          let name := String.ofList ((line.toList.take close).drop 1)
          if name.isEmpty then .error "empty section name"
          else readLines fuel (f.openSection name) name 1 rest
      else
        match readKey line with
        | .error e => .error e
        | .ok (key, afterKey) =>
          let (key, count) := if key == "-" then ("#" ++ toString count, count + 1) else (key, count)
          match readValue afterKey rest with
          | .error e => .error e
          | .ok (value, rest) =>
            if key.isEmpty then .error "error creating new key: empty key name"
            else readLines fuel (f.put sectionName key value) sectionName count rest

def IniFile.parse (text : String) : Except String IniFile :=
  let text := match text.toList with
    | '\uFEFF' :: rest => String.ofList rest
    | _ => text
  let lines := splitLines text
  readLines (lines.length + 1) {} defaultSectionName 1 lines

def firstReference (cs : List Char) : Option (List Char × String × List Char) :=
  go [] cs
where
  /-- Look for a reference after `seen`. -/
  go (seen : List Char) : List Char → Option (List Char × String × List Char)
    | '%' :: '(' :: rest =>
      let name := rest.takeWhile (· != ')')
      match rest.drop name.length with
      | ')' :: 's' :: after =>
        if name.isEmpty then go (seen ++ ['%']) ('(' :: rest)
        else some (seen, String.ofList name, after)
      | _ => go (seen ++ ['%']) ('(' :: rest)
    | c :: rest => go (seen ++ [c]) rest
    | [] => none

def replaceAll (text pat replacement : String) : String := text.replace pat replacement

/-- The value of a key of a section, with `%(name)s` references replaced (at most 99 rounds)
by keys of the section or else of the default section. -/
def IniFile.value? (f : IniFile) (sectionName key : String) : Option String := do
  let sec ← f.findSection sectionName
  let (_, raw) ← sec.entries.find? (·.1 == key)
  let lookup (name : String) : Option String :=
    match sec.entries.find? (·.1 == name) with
    | some (k, v) => if k == key then defaultValue name else some v
    | none => defaultValue name
  let mut value := raw
  for _ in [0:99] do
    if !value.contains '%' then break
    match firstReference value.toList with
    | none => break
    | some (_, name, _) =>
      match lookup name with
      | some v => value := replaceAll value ("%(" ++ name ++ ")s") v
      | none => break
  return value
where
  /-- A key of the default section. -/
  defaultValue (name : String) : Option String := do
    let d ← f.findSection defaultSectionName
    let (_, v) ← d.entries.find? (·.1 == name)
    return v

end ProxyRouter.Config
