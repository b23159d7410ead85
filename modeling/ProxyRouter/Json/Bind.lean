import ProxyRouter.Json.Value
import ProxyRouter.Decimal.Read
import ProxyRouter.Text.CaseMap
/-!
Binding JSON values to the fields of records, as settings files are read.
-/
namespace ProxyRouter.Json

/-- Where a value is being bound: the outermost record, the field names and item positions
leading to it (both empty at the top), and whether it is an item of a list. -/
structure BindContext where
  root : String := ""
  path : List String := []
  inItem : Bool := false
deriving Repr, Inhabited

/-- The context inside a field of a record; the record is the outermost one when nothing
encloses it. -/
def BindContext.enter (c : BindContext) (record field : String) : BindContext :=
  ⟨if c.root.isEmpty then record else c.root, c.path ++ [field], false⟩

def BindContext.item (c : BindContext) (i : Nat) : BindContext :=
  { c with path := c.path ++ [toString i], inItem := true }

/-- The context of the entry of a map under `key`; like a list item, it is not a record's
field. -/
def BindContext.entry (c : BindContext) (key : String) : BindContext :=
  { c with path := c.path ++ [key], inItem := true }

/-- A value of the wrong kind for where it is bound. -/
structure Mismatch where
  value : String
  target : String
  context : BindContext
deriving Repr, Inhabited

def Mismatch.message (m : Mismatch) : String :=
  "json: cannot unmarshal " ++ m.value ++ " into " ++
    (if m.context.root.isEmpty && m.context.path.isEmpty then "Go value of type " ++ m.target
     else (if m.context.inItem then "" else "Go struct field ") ++ m.context.root ++ "." ++
       ".".intercalate m.context.path ++ " of type " ++ m.target)

def kindWord : Json → String
  | .null => "null"
  | .bool _ => "bool"
  | .number _ => "number"
  | .string _ => "string"
  | .array _ => "array"
  | .object _ => "object"
  | .time _ => "string"

/-- A name as names are compared up to case: each character replaced by the smallest member of
its simple case-folding class. -/
def foldName (s : String) : String := String.ofList (s.toList.map Text.foldChar)

def fieldFor (fields : List String) (key : String) : Option String :=
  if fields.contains key then some key
  else fields.find? (fun f => foldName f == foldName key)

def bindText (c : BindContext) (j : Json) (current : String) : Except Mismatch String :=
  match j with
  | .null => .ok current
  | .string s => .ok s
  | v => .error ⟨kindWord v, "string", c⟩

def bindReal (c : BindContext) (j : Json) (current : Float) : Except Mismatch Float :=
  match j with
  | .null => .ok current
  | .number lit =>
    match Decimal.readFloat lit with
    | .ok x => .ok x
    | .error _ => .error ⟨"number " ++ lit, "float64", c⟩
  | v => .error ⟨kindWord v, "float64", c⟩

def bindWhole (c : BindContext) (j : Json) (current : Int) : Except Mismatch Int :=
  match j with
  | .null => .ok current
  | .number lit =>
    match Decimal.readInt lit with
    | .ok n => .ok n
    | .error _ => .error ⟨"number " ++ lit, "int", c⟩
  | v => .error ⟨kindWord v, "int", c⟩

def bindFlag (c : BindContext) (j : Json) (current : Bool) : Except Mismatch Bool :=
  match j with
  | .null => .ok current
  | .bool b => .ok b
  | v => .error ⟨kindWord v, "bool", c⟩

/-- Bind the items of a list of texts onto the old items, position by position; `i` is the
position of the first item. -/
def bindTextItems (c : BindContext) (i : Nat) : List Json → List String → Except Mismatch (List String)
  | [], _ => .ok []
  | j :: js, old => do
    let x ← bindText (c.item i) j (old.headD "")
    let rest ← bindTextItems c (i + 1) js (old.drop 1)
    return x :: rest

/-- A list of texts being bound from one JSON text: its items, and the texts that stood after
them when a longer list was bound to the same field before. Binding a list again reads its items
onto these texts first, as a list bound in place reuses the storage it already has. -/
structure TextList where
  items : List String := []
  spare : List String := []
deriving Repr, Inhabited

def TextList.ofItems (items : List String) : TextList := ⟨items, []⟩

/-- Bind a list-of-texts field: `null` clears it and `[]` makes it a new empty list. Any other
list is bound item by item onto the old items and then the spare texts, empty texts past them;
the texts past the new items become the spare ones. -/
def bindTextList (c : BindContext) (j : Json) (current : Option TextList) :
    Except Mismatch (Option TextList) :=
  match j with
  | .null => .ok none
  | .array [] => .ok (some {})
  | .array items =>
    let stored := match current with
      | some l => l.items ++ l.spare
      | none => []
    (bindTextItems c 0 items stored).map fun xs => some ⟨xs, stored.drop items.length⟩
  | v => .error ⟨kindWord v, "[]string", c⟩

end ProxyRouter.Json
