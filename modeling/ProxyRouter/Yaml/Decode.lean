import ProxyRouter.Yaml.Node
import ProxyRouter.Text.Quote
import ProxyRouter.Text.Utf8
/-!
Decoding a YAML tree into the shape a roster file has: a document whose `proxies` entry is a
list of maps from texts to values.
-/
namespace ProxyRouter.Yaml

/-- What a node is decoded into. -/
inductive Slot where
  /-- any value -/
  | any
  /-- a text -/
  | text
  /-- a map from texts to values -/
  | textMap
  /-- a map from values to values -/
  | valueMap
  /-- the list of proxies: maps from texts to values -/
  | records
  /-- the roster document -/
  | roster
deriving Repr, BEq, DecidableEq

def Slot.typeName : Slot → String
  | .any => "interface \x7b\x7d"
  | .text => "string"
  | .textMap => "map[string]interface \x7b\x7d"
  | .valueMap => "map[interface \x7b\x7d]interface \x7b\x7d"
  | .records => "[]map[string]interface \x7b\x7d"
  | .roster => "source.clashDocument"

/-- The state of decoding. -/
structure Decoder where
  anchored : Array Node
  errors : Array String := #[]
  decodes : Nat := 0
  aliasDecodes : Nat := 0
  aliasDepth : Nat := 0
  expanding : List Nat := []
  merged : Option (List Value) := none
deriving Repr

/-- Why decoding stopped early. -/
inductive Stop where
  /-- a problem of the document, with its message -/
  | problem (message : String)
  /-- a collection of this type met a set of keys -/
  | unhashable (typeName : String)
deriving Repr, DecidableEq

def collectionTypeName : Value → String
  | .seq _ => "[]interface \x7b\x7d"
  | .strMap _ => "map[string]interface \x7b\x7d"
  | _ => "map[interface \x7b\x7d]interface \x7b\x7d"

abbrev DecodeM := StateT Decoder (Except Stop)

namespace Decode

def anchoredNode (n : Nat) : DecodeM Node := do return (← get).anchored.getD n default

def shortTagOf (n : Node) : DecodeM String :=
  match n with
  | .alias _ _ target _ => do return (← anchoredNode target).tag
  | _ => pure n.tag

def isMerge (n : Node) : Bool :=
  match n with
  | .scalar tag "<<" _ _ => tag == "" || tag == "!" || tag == "!!merge"
  | _ => false

def isTextMap (entries : List (Node × Node)) : DecodeM Bool := do
  for (k, _) in entries do
    let t ← shortTagOf k
    if t != "!!str" && t != "!!merge" then return false
  return true

def note (msg : String) : DecodeM Unit := modify fun d => { d with errors := d.errors.push msg }

/-- Note that a node does not fit its slot, showing a scalar's text (cut after 7 bytes when
longer than 10). -/
def typeError (n : Node) (slot : Slot) : DecodeM Unit :=
  let tag := n.tag
  let shown :=
    if tag == "!!seq" || tag == "!!map" then ""
    else if n.value.utf8ByteSize > 10 then " \x60" ++ Text.bytePrefix n.value 7 ++ "...\x60"
    else " \x60" ++ n.value ++ "\x60"
  note ("line " ++ toString n.line ++ ": cannot unmarshal " ++ shortTag tag ++ shown ++ " into " ++
    slot.typeName)

/-- Note each key that repeats an earlier key of the same kind and text; whether there was
one. -/
def duplicateKeys (entries : List (Node × Node)) : DecodeM Bool := do
  let keys := entries.map (·.1)
  let before := (← get).errors.size
  let mut rest := keys
  for ki in keys do
    rest := rest.drop 1
    for kj in rest do
      if ki.kindCode == kj.kindCode && ki.value == kj.value then
        note ("line " ++ toString kj.line ++ ": mapping key " ++ Text.quote kj.value ++
          " already defined at line " ++ toString ki.line)
  return (← get).errors.size > before

/-- The share of decodes that may come from alias expansions, shrinking from 99% to 10% as
documents grow from 400000 to 4000000 decodes. -/
def allowedAliasRatio (decodes : Nat) : Float :=
  if decodes ≤ 400000 then 0.99
  else if decodes ≥ 4000000 then 0.10
  else 0.99 - 0.89 * ((decodes - 400000).toFloat / 3600000.0)

def count : DecodeM Unit := do
  let d ← get
  let d := { d with decodes := d.decodes + 1,
                    aliasDecodes := if d.aliasDepth > 0 then d.aliasDecodes + 1 else d.aliasDecodes }
  set d
  if d.aliasDecodes > 100 && d.decodes > 1000 &&
      d.aliasDecodes.toFloat / d.decodes.toFloat > allowedAliasRatio d.decodes then
    throw (.problem "document contains excessive aliasing")

def wantMap : String := "map merge requires map or sequence of maps as the value"

def scalar (n : Node) (tag value : String) (slot : Slot) (current : Value) :
    DecodeM (Bool × Value) := do
  let (rtag, resolved) ← do
    if tag == "!!str" then pure ("!!str", Value.str value)
    else
      match resolve tag value with
      | .error msg => throw (.problem msg)
      | .ok (t, v) =>
        if t == "!!binary" then
          match base64Text value with
          | some s => pure (t, Value.str s)
          | none => throw (.problem "!!binary value contains invalid base64 data")
        else pure (t, v)
  match resolved with
  | .null =>
    match slot with
    | .any | .textMap | .valueMap | .records => return (true, .null)
    | _ => return (false, current)
  | _ =>
    match slot with
    | .any => return (true, resolved)
    | .text =>
      if rtag == "!!binary" then return (true, resolved) else return (true, .str value)
    | _ =>
      typeError n slot
      return (false, current)

def proxiesOf (doc : Value) : Value :=
  match doc with
  | .strMap es => ((es.find? (·.1 == "proxies")).map (·.2)).getD .null
  | _ => .null

def putEntry (slot : Slot) (m : Value) (k v : Value) : Value :=
  match slot, m, k with
  | .textMap, .strMap es, .str key => .strMap (Value.putText key v es)
  | .textMap, .null, .str key => .strMap [(key, v)]
  | _, .anyMap es, _ => .anyMap (Value.putAny k v es)
  | _, .null, _ => .anyMap [(k, v)]
  | _, _, _ => m

def hasEntry (m : Value) (k : Value) : Bool :=
  match m, k with
  | .strMap es, .str key => es.any (·.1 == key)
  | .anyMap es, _ => es.any (fun e => Value.sameKey e.1 k)
  | _, _ => false

mutual
def unmarshal : Nat → Node → Slot → Value → DecodeM (Bool × Value)
  | 0, _, _, _ => throw (.problem "document nests too deeply")
  | fuel + 1, n, slot, current => do
    count
    match n with
    | .alias name site target _ =>
      if (← get).expanding.contains site then
        throw (.problem ("anchor \x27" ++ name ++ "\x27 value contains itself"))
      modify fun d => { d with expanding := site :: d.expanding, aliasDepth := d.aliasDepth + 1 }
      let r ← unmarshal fuel (← anchoredNode target) slot current
      modify fun d => { d with expanding := d.expanding.drop 1, aliasDepth := d.aliasDepth - 1 }
      return r
    | .scalar tag value _ _ => scalar n tag value slot current
    | .sequence _ items _ =>
      match slot with
      | .records | .any =>
        let itemSlot := if slot == .records then Slot.textMap else .any
        let mut out : Array Value := #[]
        for item in items do
          let (ok, v) ← unmarshal fuel item itemSlot .null
          if ok then out := out.push v
        return (true, .seq out.toList)
      | _ =>
        typeError n slot
        return (false, current)
    | .mapping _ entries _ =>
      if ← duplicateKeys entries then return (false, current)
      match slot with
      | .roster => roster fuel entries current
      | .textMap | .valueMap => mapping fuel entries slot current (current matches .null)
      | .any =>
        let target := if ← isTextMap entries then Slot.textMap else .valueMap
        let empty := if target == .textMap then Value.strMap [] else .anyMap []
        let (_, v) ← mapping fuel entries target empty false
        return (true, v)
      | _ =>
        typeError n slot
        return (false, current)

def mapping : Nat → List (Node × Node) → Slot → Value → Bool → DecodeM (Bool × Value)
  | 0, _, _, _, _ => throw (.problem "document nests too deeply")
  | fuel + 1, entries, slot, current, isNew => do
    let saved := (← get).merged
    modify fun d => { d with merged := none }
    let mut fields := saved
    let mut mergeNode : Option Node := none
    let mut out := current
    for (k, v) in entries do
      if isMerge k then
        mergeNode := some v
        continue
      let keySlot := if slot == .textMap then Slot.text else .any
      let (ok, key) ← unmarshal fuel k keySlot (if keySlot == .text then .str "" else .null)
      if !ok then continue
      if let some fs := fields then
        if key.isCollection then throw (.unhashable (collectionTypeName key))
        if fs.any (Value.sameKey · key) then continue
        fields := some (fs ++ [key])
      if key.isCollection then throw (.problem ("invalid map key: " ++ key.literal))
      let (good, value) ← unmarshal fuel v .any .null
      if good || ((← shortTagOf v) == "!!null" && (isNew || !hasEntry out key)) then
        out := putEntry slot out key value
    modify fun d => { d with merged := fields }
    match mergeNode with
    | some m => return (true, ← merge fuel entries m slot out)
    | none => return (true, out)

def roster : Nat → List (Node × Node) → Value → DecodeM (Bool × Value)
  | 0, _, _ => throw (.problem "document nests too deeply")
  | fuel + 1, entries, current => do
    let saved := (← get).merged
    modify fun d => { d with merged := none }
    let mut fields := saved
    let mut mergeNode : Option Node := none
    let mut done := false
    let mut out := current
    for (k, v) in entries do
      if isMerge k then
        mergeNode := some v
        continue
      let (ok, key) ← unmarshal fuel k .text (.str "")
      if !ok then continue
      let name := match key with
        | .str s => s
        | _ => ""
      if let some fs := fields then
        if fs.any (Value.sameKey · (.str name)) then continue
        fields := some (fs ++ [.str name])
      if name == "proxies" then
        if done then
          note ("line " ++ toString k.line ++ ": field proxies already set in type " ++
            Slot.roster.typeName)
          continue
        done := true
        let (_, proxies) ← unmarshal fuel v .records (proxiesOf out)
        out := .strMap [("proxies", proxies)]
    modify fun d => { d with merged := fields }
    match mergeNode with
    | some m => return (true, ← merge fuel entries m .roster out)
    | none => return (true, out)

/-- Merge the mapping or mappings of a merge key into a map or the document. -/
def merge : Nat → List (Node × Node) → Node → Slot → Value → DecodeM Value
  | 0, _, _, _, _ => throw (.problem "document nests too deeply")
  | fuel + 1, parent, m, slot, current => do
    let captured := (← get).merged
    if captured.isNone then
      let mut keys : List Value := []
      for (k, _) in parent do
        let (ok, key) ← unmarshal fuel k .any .null
        if ok then
          if key.isCollection then throw (.unhashable (collectionTypeName key))
          keys := keys ++ [key]
      modify fun d => { d with merged := some keys }
    let mut out := current
    match m with
    | .mapping .. =>
      out := (← unmarshal fuel m slot out).2
    | .alias _ _ target _ =>
      if !(← anchoredNode target).isMapping then throw (.problem wantMap)
      out := (← unmarshal fuel m slot out).2
    | .sequence _ items _ =>
      for item in items do
        match item with
        | .alias _ _ target _ =>
          if !(← anchoredNode target).isMapping then throw (.problem wantMap)
        | .mapping .. => pure ()
        | _ => throw (.problem wantMap)
        out := (← unmarshal fuel item slot out).2
    | _ => throw (.problem wantMap)
    if captured.isNone then modify fun d => { d with merged := none }
    return out
end

end Decode

/-- Why a roster document gives no proxies. -/
inductive ReadFailure where
  /-- the text is not a roster document; the message says why -/
  | invalid (message : String)
  /-- reading hit a run-time fault, which ends the whole operation; the message names it -/
  | fault (message : String)
deriving Repr, DecidableEq

def ReadFailure.message : ReadFailure → String
  | .invalid m | .fault m => m

/-- The proxies of a roster document's tree: each a map from texts to values, or null; none
when the document gives no list. -/
def Document.proxies (doc : Document) : Except ReadFailure (Option (List Value)) :=
  let fuel := 4 * (doc.extent + 8) * (doc.aliases + 2)
  match (Decode.unmarshal fuel doc.root .roster (.strMap [])).run { anchored := doc.anchored } with
  | .error (.problem msg) => .error (.invalid ("yaml: " ++ msg))
  | .error (.unhashable t) => .error (.fault ("runtime error: hash of unhashable type " ++ t))
  | .ok ((_, v), d) =>
    if d.errors.size > 0 then
      .error (.invalid ("yaml: unmarshal errors:\n  " ++ "\n  ".intercalate d.errors.toList))
    else
      match Decode.proxiesOf v with
      | .seq items => .ok (some items)
      | _ => .ok none

def rosterProxies (text : String) : Except ReadFailure (Option (List Value)) :=
  match Document.ofText text with
  | .error p => .error (.invalid ("yaml: " ++ p.message))
  | .ok none => .ok none
  | .ok (some doc) => doc.proxies

end ProxyRouter.Yaml
