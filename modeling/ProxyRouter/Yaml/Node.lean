import ProxyRouter.Yaml.Event
import ProxyRouter.Yaml.Resolve
/-!
The tree of the first document of YAML text.
-/
namespace ProxyRouter.Yaml

/-- A node of the tree. -/
inductive Node where
  | scalar (tag value : String) (style : ScalarStyle) (line : Nat)
  | sequence (tag : String) (items : List Node) (line : Nat)
  | mapping (tag : String) (entries : List (Node × Node)) (line : Nat)
  /-- an alias with its own number and the number of the anchored node -/
  | alias (name : String) (site target : Nat) (line : Nat)
deriving Repr, Inhabited

namespace Node

def line : Node → Nat
  | .scalar _ _ _ l | .sequence _ _ l | .mapping _ _ l | .alias _ _ _ l => l

def kindCode : Node → Nat
  | .scalar .. => 0
  | .sequence .. => 1
  | .mapping .. => 2
  | .alias .. => 3

def value : Node → String
  | .scalar _ v _ _ => v
  | .alias name _ _ _ => name
  | _ => ""

def tag : Node → String
  | .scalar t _ _ _ | .sequence t _ _ | .mapping t _ _ => t
  | .alias .. => ""

def isMapping : Node → Bool
  | .mapping .. => true
  | _ => false

end Node

/-- The tree of a document: its root, the anchored nodes by number, how many aliases it has,
and the length of its text (which bounds its depth). -/
structure Document where
  root : Node
  anchored : Array Node
  aliases : Nat
  extent : Nat
deriving Repr

/-- The state of building a tree from events. -/
structure Composer where
  reader : EventReader
  pending : Option Event := none
  anchors : List (String × Nat) := []
  anchored : Array Node := #[]
  aliases : Nat := 0
deriving Repr

abbrev ComposeM := StateT Composer (Except Problem)

namespace Compose

def fail {α : Type} (problem : String) : ComposeM α := do
  throw { stage := .nodes, problem := problem, reach := (← get).reader.scanner.reach }

def peek : ComposeM Event := do
  let c ← get
  match c.pending with
  | some e => return e
  | none =>
    match Events.next.run c.reader with
    | .error p => throw p
    | .ok (e, r) =>
      set { c with reader := r, pending := some e }
      return e

def take : ComposeM Event := do
  let e ← peek
  modify fun c => { c with pending := none }
  return e

def expect : ComposeM Event := do
  let e ← take
  if e.kind == .streamEnd then fail "attempted to go past the end of stream; corrupted value?"
  return e

def reserve (anchor : String) : ComposeM (Option Nat) := do
  if anchor.isEmpty then return none
  let c ← get
  let n := c.anchored.size
  set { c with anchored := c.anchored.push default, anchors := (anchor, n) :: c.anchors }
  return some n

def fill (n : Option Nat) (node : Node) : ComposeM Unit :=
  match n with
  | some i => modify fun c => { c with anchored := c.anchored.setIfInBounds i node }
  | none => pure ()

/-- The tag of a node: the explicit one in short form, else the default, else (for scalars)
the one its text suggests. -/
def nodeTag (explicit fallback : String) (isScalar : Bool) (value : String) : String :=
  if explicit != "" && explicit != "!" then shortTag explicit
  else if fallback != "" then fallback
  else if isScalar then plainTag value
  else ""

def node : Nat → ComposeM Node
  | 0 => fail "exceeded max depth"
  | fuel + 1 => do
    let e ← peek
    let line := e.start.line + 1
    let bound := (← get).reader.scanner.fuel
    match e.kind with
    | .scalar anchor tag value style =>
      let fallback := if style != .plain then "!!str" else if value == "<<" then "!!merge" else ""
      let n := Node.scalar (nodeTag tag fallback true value) value style line
      let id ← reserve anchor
      fill id n
      let _ ← expect
      return n
    | .alias name =>
      match (← get).anchors.find? (·.1 == name) with
      | none => fail ("unknown anchor '" ++ name ++ "' referenced")
      | some (_, target) =>
        let c ← get
        set { c with aliases := c.aliases + 1 }
        let _ ← expect
        return .alias name c.aliases target line
    | .sequenceStart anchor tag _ =>
      let id ← reserve anchor
      let _ ← expect
      let mut items : Array Node := #[]
      for _ in [0:bound] do
        if (← peek).kind == .sequenceEnd then break
        items := items.push (← node fuel)
      let _ ← expect
      let n := Node.sequence (nodeTag tag "!!seq" false "") items.toList line
      fill id n
      return n
    | .mappingStart anchor tag _ =>
      let id ← reserve anchor
      let _ ← expect
      let mut entries : Array (Node × Node) := #[]
      for _ in [0:bound] do
        if (← peek).kind == .mappingEnd then break
        let k ← node fuel
        let v ← node fuel
        entries := entries.push (k, v)
      let _ ← expect
      let n := Node.mapping (nodeTag tag "!!map" false "") entries.toList line
      fill id n
      return n
    | _ => fail "attempted to parse unknown event"

def document : ComposeM (Option Node) := do
  let _ ← expect
  match (← peek).kind with
  | .documentStart =>
    let _ ← take
    let root ← node ((← get).reader.scanner.fuel * 2)
    let _ ← expect
    return some root
  | .streamEnd => return none
  | _ => fail "attempted to parse unknown event"

end Compose

def allowedChar (c : Char) : Bool :=
  let n := c.toNat
  n == 0x09 || n == 0x0A || n == 0x0D || (0x20 ≤ n && n ≤ 0x7E) || n == 0x85 ||
    (0xA0 ≤ n && n ≤ 0xD7FF) || (0xE000 ≤ n && n ≤ 0xFFFD) || (0x10000 ≤ n && n ≤ 0x10FFFF)

def pieceBytes : Nat := 512

/-- How many characters are checked when `reach` characters have been asked for. The text is
read in pieces, each ending at the last character boundary at most `pieceBytes` bytes after the
end of the one before, and every character of a piece is checked when the piece is read; pieces
are read until they hold `reach` characters or the text ends. `ends` are the byte offsets where
the characters end, a leading byte order mark not counted among them but taking its bytes. -/
def checkedCount (ends : List Nat) (reach : Nat) : Nat :=
  go ends.length ends 0 0
where
  /-- Read pieces from byte `edge` on, `count` characters read so far and `rest` the ends of
  the others; `fuel` bounds the number of pieces. -/
  go : Nat → List Nat → Nat → Nat → Nat
    | 0, _, count, _ => count
    | fuel + 1, rest, count, edge =>
      let inPiece := rest.takeWhile (· ≤ edge + pieceBytes)
      let count := count + inPiece.length
      if count ≥ reach || inPiece.length == rest.length then count
      else go fuel (rest.drop inPiece.length) count (inPiece.getLastD edge)

def checkedChars (text : String) (reach : Nat) : List Char :=
  let cs := text.toList
  let (start, body) := match cs with
    | '\uFEFF' :: rest => ('\uFEFF'.utf8Size, rest)
    | _ => (0, cs)
  let ends := (body.foldl (fun (acc : Nat × List Nat) c =>
    (acc.1 + c.utf8Size, (acc.1 + c.utf8Size) :: acc.2)) (start, [])).2.reverse
  body.take (checkedCount ends reach)

/-- The tree of the first document of a text, or nothing when it has none. Reading stops at a
character outside the printable set of YAML as soon as the piece of text holding it is read,
which happens only when the reader asks for a character of that piece or beyond. -/
def Document.ofText (text : String) : Except Problem (Option Document) :=
  let text := if text.isEmpty then "\n" else text
  let checked (reach : Nat) : Bool := (checkedChars text reach).all allowedChar
  let refused : Problem := { stage := .characters, problem := "control characters are not allowed" }
  match Compose.document.run { reader := EventReader.start text } with
  | .error p => if checked p.reach then .error p else .error refused
  | .ok (none, c) => if checked c.reader.scanner.reach then .ok none else .error refused
  | .ok (some root, c) =>
    if !checked c.reader.scanner.reach then .error refused
    else
      .ok (some {
        root := root
        anchored := c.anchored
        aliases := c.aliases
        extent := c.reader.scanner.input.size })

end ProxyRouter.Yaml
