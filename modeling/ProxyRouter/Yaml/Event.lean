import ProxyRouter.Yaml.Token.Scan
/-!
Events: the tokens of YAML text grouped into the starts and ends of documents, sequences and
mappings, scalars and aliases, in document order.
-/
namespace ProxyRouter.Yaml

/-- What an event is. Anchors and tags are empty when absent. -/
inductive EventKind where
  | streamStart
  | streamEnd
  | documentStart
  | documentEnd
  | alias (name : String)
  | scalar (anchor tag value : String) (style : ScalarStyle)
  | sequenceStart (anchor tag : String) (flow : Bool)
  | sequenceEnd
  | mappingStart (anchor tag : String) (flow : Bool)
  | mappingEnd
deriving Repr, Inhabited, BEq

/-- An event and where it starts. -/
structure Event where
  kind : EventKind
  start : Mark
deriving Repr, Inhabited

/-- What the reader expects next. -/
inductive ReadState where
  | streamStart
  | implicitDocumentStart
  | documentStart
  | documentContent
  | documentEnd
  | blockNode
  | blockNodeOrIndentlessSequence
  | flowNode
  | blockSequenceFirstEntry
  | blockSequenceEntry
  | indentlessSequenceEntry
  | blockMappingFirstKey
  | blockMappingKey
  | blockMappingValue
  | flowSequenceFirstEntry
  | flowSequenceEntry
  | flowSequenceEntryMappingKey
  | flowSequenceEntryMappingValue
  | flowSequenceEntryMappingEnd
  | flowMappingFirstKey
  | flowMappingKey
  | flowMappingValue
  | flowMappingEmptyValue
  | finished
deriving Repr, Inhabited, BEq

/-- The event reader's state. -/
structure EventReader where
  scanner : Scanner
  state : ReadState := .streamStart
  states : List ReadState := []
  marks : List Mark := []
  tagDirectives : List (String × String) := []
deriving Repr, Inhabited

abbrev EventM := StateT EventReader (Except Problem)

namespace Events

def scan {α : Type} (m : ScanM α) : EventM α := fun r => do
  let (a, s) ← m.run r.scanner
  return (a, { r with scanner := s })

def token : EventM Token := scan Scan.peekToken

def advance : EventM Unit := scan Scan.skipToken

def failAt {α : Type} (problem : String) (mark : Mark) : EventM α := do
  throw { stage := .events, problem := problem, problemMark := mark,
          reach := (← get).scanner.reach }

def failIn {α : Type} (context : String) (contextMark : Mark) (problem : String) (mark : Mark) :
    EventM α := do
  throw { stage := .events, context := context, contextMark := contextMark, problem := problem,
          problemMark := mark, reach := (← get).scanner.reach }

def goTo (s : ReadState) : EventM Unit := modify fun r => { r with state := s }

def pushState (s : ReadState) : EventM Unit := modify fun r => { r with states := s :: r.states }

def popState : EventM Unit := modify fun r =>
  match r.states with
  | s :: rest => { r with state := s, states := rest }
  | [] => { r with state := .finished }

def pushMark (m : Mark) : EventM Unit := modify fun r => { r with marks := m :: r.marks }

def popMark : EventM Mark := do
  let r ← get
  match r.marks with
  | m :: rest =>
    set { r with marks := rest }
    return m
  | [] => return {}

def emptyScalar (m : Mark) : Event := ⟨.scalar "" "" "" .plain, m⟩

def addTagDirective (handle pfx : String) (defaults : Bool) (m : Mark) : EventM Unit := do
  let r ← get
  if r.tagDirectives.any (·.1 == handle) then
    if defaults then return
    failAt "found duplicate %TAG directive" m
  set { r with tagDirectives := r.tagDirectives ++ [(handle, pfx)] }

def processDirectives : EventM Unit := do
  let mut version := false
  for _ in [0:(← get).scanner.fuel] do
    let t ← token
    match t.kind with
    | .versionDirective major minor =>
      if version then failAt "found duplicate %YAML directive" t.start
      if major != 1 || minor != 1 then failAt "found incompatible YAML document" t.start
      version := true
    | .tagDirective handle pfx => addTagDirective handle pfx false t.start
    | _ => break
    advance
  let t ← token
  addTagDirective "!" "!" true t.start
  addTagDirective "!!" "tag:yaml.org,2002:" true t.start

def streamStart : EventM Event := do
  let t ← token
  if t.kind != .streamStart then failAt "did not find expected <stream-start>" t.start
  goTo .implicitDocumentStart
  advance
  return ⟨.streamStart, t.start⟩

/-- The start of a document, or the end of the stream. Only the first document may leave out
`---`; stray `...` before a document are skipped. -/
def documentStart (implicit : Bool) : EventM Event := do
  let mut t ← token
  if !implicit then
    for _ in [0:(← get).scanner.fuel] do
      if t.kind != .documentEnd then break
      advance
      t ← token
  let isDirective := match t.kind with
    | .versionDirective _ _ | .tagDirective _ _ => true
    | _ => false
  if implicit && !isDirective && t.kind != .documentStart && t.kind != .streamEnd then
    processDirectives
    pushState .documentEnd
    goTo .blockNode
    return ⟨.documentStart, t.start⟩
  else if t.kind != .streamEnd then
    let start := t.start
    processDirectives
    let marker ← token
    if marker.kind != .documentStart then
      failAt "did not find expected <document start>" marker.start
    pushState .documentEnd
    goTo .documentContent
    advance
    return ⟨.documentStart, start⟩
  else
    goTo .finished
    advance
    return ⟨.streamEnd, t.start⟩

def documentContent (node : EventM Event) : EventM Event := do
  let t ← token
  let isDirective := match t.kind with
    | .versionDirective _ _ | .tagDirective _ _ => true
    | _ => false
  if isDirective || t.kind == .documentStart || t.kind == .documentEnd || t.kind == .streamEnd then
    popState
    return emptyScalar t.start
  node

def documentEnd : EventM Event := do
  let t ← token
  if t.kind == .documentEnd then advance
  modify fun r => { r with tagDirectives := [] }
  goTo .documentStart
  return ⟨.documentEnd, t.start⟩

/-- A node: an alias, or a scalar or the start of a collection with its anchor and tag. In block
context a `-` right after a mapping key starts a sequence at the key's indentation. -/
def node (block indentless : Bool) : EventM Event := do
  let first ← token
  if let .alias name := first.kind then
    popState
    advance
    return ⟨.alias name, first.start⟩
  let startMark := first.start
  let mut t := first
  let mut anchor := ""
  let mut tagged := false
  let mut handle := ""
  let mut suffix := ""
  let mut tagMark : Mark := {}
  match t.kind with
  | .anchor name =>
    anchor := name
    advance
    t ← token
    if let .tag h s := t.kind then
      tagged := true
      handle := h
      suffix := s
      tagMark := t.start
      advance
      t ← token
  | .tag h s =>
    tagged := true
    handle := h
    suffix := s
    tagMark := t.start
    advance
    t ← token
    if let .anchor name := t.kind then
      anchor := name
      advance
      t ← token
  | _ => pure ()
  let mut tag := ""
  if tagged then
    if handle.isEmpty then tag := suffix
    else
      match (← get).tagDirectives.find? (·.1 == handle) with
      | some (_, pfx) => tag := pfx ++ suffix
      | none => pure ()
      if tag.isEmpty then
        failIn "while parsing a node" startMark "found undefined tag handle" tagMark
  if indentless && t.kind == .blockEntry then
    goTo .indentlessSequenceEntry
    return ⟨.sequenceStart anchor tag false, startMark⟩
  match t.kind with
  | .scalar value style =>
    popState
    advance
    return ⟨.scalar anchor tag value style, startMark⟩
  | .flowSequenceStart =>
    goTo .flowSequenceFirstEntry
    return ⟨.sequenceStart anchor tag true, startMark⟩
  | .flowMappingStart =>
    goTo .flowMappingFirstKey
    return ⟨.mappingStart anchor tag true, startMark⟩
  | .blockSequenceStart =>
    if block then
      goTo .blockSequenceFirstEntry
      return ⟨.sequenceStart anchor tag false, startMark⟩
  | .blockMappingStart =>
    if block then
      goTo .blockMappingFirstKey
      return ⟨.mappingStart anchor tag false, startMark⟩
  | _ => pure ()
  if !anchor.isEmpty || !tag.isEmpty then
    popState
    return ⟨.scalar anchor tag "" .plain, startMark⟩
  failIn (if block then "while parsing a block node" else "while parsing a flow node") startMark
    "did not find expected node content" t.start

def blockSequenceEntry (first : Bool) : EventM Event := do
  if first then
    pushMark (← token).start
    advance
  let t ← token
  if t.kind == .blockEntry then
    advance
    let n ← token
    if n.kind != .blockEntry && n.kind != .blockEnd then
      pushState .blockSequenceEntry
      node true false
    else
      goTo .blockSequenceEntry
      return emptyScalar t.stop
  else if t.kind == .blockEnd then
    popState
    let _ ← popMark
    advance
    return ⟨.sequenceEnd, t.start⟩
  else
    let m ← popMark
    failIn "while parsing a block collection" m "did not find expected '-' indicator" t.start

def indentlessSequenceEntry : EventM Event := do
  let t ← token
  if t.kind == .blockEntry then
    advance
    let n ← token
    if n.kind != .blockEntry && n.kind != .key && n.kind != .value && n.kind != .blockEnd then
      pushState .indentlessSequenceEntry
      node true false
    else
      goTo .indentlessSequenceEntry
      return emptyScalar t.stop
  else
    popState
    return ⟨.sequenceEnd, t.start⟩

def blockMappingKey (first : Bool) : EventM Event := do
  if first then
    pushMark (← token).start
    advance
  let t ← token
  if t.kind == .key then
    advance
    let n ← token
    if n.kind != .key && n.kind != .value && n.kind != .blockEnd then
      pushState .blockMappingValue
      node true true
    else
      goTo .blockMappingValue
      return emptyScalar t.stop
  else if t.kind == .blockEnd then
    popState
    let _ ← popMark
    advance
    return ⟨.mappingEnd, t.start⟩
  else
    let m ← popMark
    failIn "while parsing a block mapping" m "did not find expected key" t.start

def blockMappingValue : EventM Event := do
  let t ← token
  if t.kind == .value then
    advance
    let n ← token
    if n.kind != .key && n.kind != .value && n.kind != .blockEnd then
      pushState .blockMappingKey
      node true true
    else
      goTo .blockMappingKey
      return emptyScalar t.stop
  else
    goTo .blockMappingKey
    return emptyScalar t.start

/-- An entry of a flow sequence, or its end; entries are separated by `,`, and `? k: v` or
`k: v` entries are single-pair mappings. -/
def flowSequenceEntry (first : Bool) : EventM Event := do
  if first then
    pushMark (← token).start
    advance
  let mut t ← token
  if t.kind != .flowSequenceEnd then
    if !first then
      if t.kind == .flowEntry then
        advance
        t ← token
      else
        let m ← popMark
        failIn "while parsing a flow sequence" m "did not find expected ',' or ']'" t.start
    if t.kind == .key then
      goTo .flowSequenceEntryMappingKey
      advance
      return ⟨.mappingStart "" "" true, t.start⟩
    else if t.kind != .flowSequenceEnd then
      pushState .flowSequenceEntry
      return ← node false false
  popState
  let _ ← popMark
  advance
  return ⟨.sequenceEnd, t.start⟩

def flowSequenceEntryMappingKey : EventM Event := do
  let t ← token
  if t.kind != .value && t.kind != .flowEntry && t.kind != .flowSequenceEnd then
    pushState .flowSequenceEntryMappingValue
    node false false
  else
    advance
    goTo .flowSequenceEntryMappingValue
    return emptyScalar t.stop

def flowSequenceEntryMappingValue : EventM Event := do
  let t ← token
  if t.kind == .value then
    advance
    let n ← token
    if n.kind != .flowEntry && n.kind != .flowSequenceEnd then
      pushState .flowSequenceEntryMappingEnd
      return ← node false false
    goTo .flowSequenceEntryMappingEnd
    return emptyScalar n.start
  goTo .flowSequenceEntryMappingEnd
  return emptyScalar t.start

def flowSequenceEntryMappingEnd : EventM Event := do
  let t ← token
  goTo .flowSequenceEntry
  return ⟨.mappingEnd, t.start⟩

def flowMappingKey (first : Bool) : EventM Event := do
  if first then
    pushMark (← token).start
    advance
  let mut t ← token
  if t.kind != .flowMappingEnd then
    if !first then
      if t.kind == .flowEntry then
        advance
        t ← token
      else
        let m ← popMark
        failIn "while parsing a flow mapping" m "did not find expected ',' or '\x7d'" t.start
    if t.kind == .key then
      advance
      let n ← token
      if n.kind != .value && n.kind != .flowEntry && n.kind != .flowMappingEnd then
        pushState .flowMappingValue
        return ← node false false
      goTo .flowMappingValue
      return emptyScalar n.start
    else if t.kind != .flowMappingEnd then
      pushState .flowMappingEmptyValue
      return ← node false false
  popState
  let _ ← popMark
  advance
  return ⟨.mappingEnd, t.start⟩

def flowMappingValue (empty : Bool) : EventM Event := do
  let t ← token
  if empty then
    goTo .flowMappingKey
    return emptyScalar t.start
  if t.kind == .value then
    advance
    let n ← token
    if n.kind != .flowEntry && n.kind != .flowMappingEnd then
      pushState .flowMappingKey
      return ← node false false
    goTo .flowMappingKey
    return emptyScalar n.start
  goTo .flowMappingKey
  return emptyScalar t.start

def next : EventM Event := do
  match (← get).state with
  | .streamStart => streamStart
  | .implicitDocumentStart => documentStart true
  | .documentStart => documentStart false
  | .documentContent => documentContent (node true false)
  | .documentEnd => documentEnd
  | .blockNode => node true false
  | .blockNodeOrIndentlessSequence => node true true
  | .flowNode => node false false
  | .blockSequenceFirstEntry => blockSequenceEntry true
  | .blockSequenceEntry => blockSequenceEntry false
  | .indentlessSequenceEntry => indentlessSequenceEntry
  | .blockMappingFirstKey => blockMappingKey true
  | .blockMappingKey => blockMappingKey false
  | .blockMappingValue => blockMappingValue
  | .flowSequenceFirstEntry => flowSequenceEntry true
  | .flowSequenceEntry => flowSequenceEntry false
  | .flowSequenceEntryMappingKey => flowSequenceEntryMappingKey
  | .flowSequenceEntryMappingValue => flowSequenceEntryMappingValue
  | .flowSequenceEntryMappingEnd => flowSequenceEntryMappingEnd
  | .flowMappingFirstKey => flowMappingKey true
  | .flowMappingKey => flowMappingKey false
  | .flowMappingValue => flowMappingValue false
  | .flowMappingEmptyValue => flowMappingValue true
  | .finished => return ⟨.streamEnd, (← get).scanner.mark⟩

end Events

def EventReader.start (text : String) : EventReader := { scanner := Scanner.start text }

end ProxyRouter.Yaml
