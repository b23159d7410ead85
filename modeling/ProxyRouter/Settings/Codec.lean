import ProxyRouter.Settings.Modules
import ProxyRouter.Json.Bind
import ProxyRouter.Json.Parse
import ProxyRouter.Json.Print
/-!
Runtime settings as JSON: the object form of each module and of all three, reading a module
from JSON onto its current settings, and reading a settings file.
-/
namespace ProxyRouter.Settings

open Json

/-- Why JSON text could not be read as settings. -/
inductive ReadError where
  /-- the text is not JSON -/
  | malformed (e : SyntaxError)
  /-- a value has the wrong kind for its place -/
  | mismatch (m : Mismatch)
deriving Repr

def ReadError.message : ReadError → String
  | .malformed e => e.message
  | .mismatch m => m.message

def SelectorSettings.toJson (s : SelectorSettings) : Json :=
  .object [("strategy", .string s.strategy), ("healthy_threshold", Json.float s.healthyThreshold),
    ("fallback_to_all", .bool s.fallbackToAll)]

def RoutingSettings.toJson (s : RoutingSettings) : Json :=
  .object [("use_defaults", .bool s.useDefaults), ("templates", Json.stringsOrNull s.templates),
    ("rules", Json.stringsOrNull s.rules)]

def StickySettings.toJson (s : StickySettings) : Json :=
  .object [("mode", .string s.mode), ("ttl", .int s.ttl), ("rules", Json.stringsOrNull s.rules)]

def RuntimeSettings.toJson (s : RuntimeSettings) : Json :=
  .object [("selector", s.selector.toJson), ("routing", s.routing.toJson),
    ("sticky", s.sticky.toJson)]

def Payload.toJson : Payload → Json
  | .selector s => s.toJson
  | .routing r => r.toJson
  | .sticky s => s.toJson
  | .unrecognized => .null

def SelectorSettings.empty : SelectorSettings := ⟨"", 0, false⟩
def RoutingSettings.empty : RoutingSettings := ⟨false, none, none⟩
def StickySettings.empty : StickySettings := ⟨"", 0, none⟩

def SelectorSettings.bind (c : BindContext) (j : Json) (s : SelectorSettings) :
    Except Mismatch SelectorSettings :=
  match j with
  | .null => .ok s
  | .object ms => ms.foldlM (fun s (k, v) =>
      match fieldFor ["strategy", "healthy_threshold", "fallback_to_all"] k with
      | some "strategy" => do
        let x ← bindText (c.enter "SelectorSettings" "strategy") v s.strategy
        return { s with strategy := x }
      | some "healthy_threshold" => do
        let x ← bindReal (c.enter "SelectorSettings" "healthy_threshold") v s.healthyThreshold
        return { s with healthyThreshold := x }
      | some "fallback_to_all" => do
        let x ← bindFlag (c.enter "SelectorSettings" "fallback_to_all") v s.fallbackToAll
        return { s with fallbackToAll := x }
      | _ => pure s) s
  | v => .error ⟨kindWord v, "settings.SelectorSettings", c⟩

/-- Routing settings while one JSON text is read onto them: each list keeps its spare texts. -/
structure RoutingDraft where
  useDefaults : Bool
  templates : Option TextList
  rules : Option TextList

def RoutingSettings.draft (s : RoutingSettings) : RoutingDraft :=
  ⟨s.useDefaults, s.templates.map TextList.ofItems, s.rules.map TextList.ofItems⟩

def RoutingDraft.settings (d : RoutingDraft) : RoutingSettings :=
  ⟨d.useDefaults, d.templates.map (·.items), d.rules.map (·.items)⟩

def RoutingDraft.bind (c : BindContext) (j : Json) (s : RoutingDraft) :
    Except Mismatch RoutingDraft :=
  match j with
  | .null => .ok s
  | .object ms => ms.foldlM (fun s (k, v) =>
      match fieldFor ["use_defaults", "templates", "rules"] k with
      | some "use_defaults" => do
        let x ← bindFlag (c.enter "RoutingSettings" "use_defaults") v s.useDefaults
        return { s with useDefaults := x }
      | some "templates" => do
        let x ← bindTextList (c.enter "RoutingSettings" "templates") v s.templates
        return { s with templates := x }
      | some "rules" => do
        let x ← bindTextList (c.enter "RoutingSettings" "rules") v s.rules
        return { s with rules := x }
      | _ => pure s) s
  | v => .error ⟨kindWord v, "settings.RoutingSettings", c⟩

def RoutingSettings.bind (c : BindContext) (j : Json) (s : RoutingSettings) :
    Except Mismatch RoutingSettings :=
  (RoutingDraft.bind c j s.draft).map RoutingDraft.settings

/-- Sticky settings while one JSON text is read onto them: the rules keep their spare texts. -/
structure StickyDraft where
  mode : String
  ttl : Int
  rules : Option TextList

def StickySettings.draft (s : StickySettings) : StickyDraft :=
  ⟨s.mode, s.ttl, s.rules.map TextList.ofItems⟩

def StickyDraft.settings (d : StickyDraft) : StickySettings :=
  ⟨d.mode, d.ttl, d.rules.map (·.items)⟩

def StickyDraft.bind (c : BindContext) (j : Json) (s : StickyDraft) :
    Except Mismatch StickyDraft :=
  match j with
  | .null => .ok s
  | .object ms => ms.foldlM (fun s (k, v) =>
      match fieldFor ["mode", "ttl", "rules"] k with
      | some "mode" => do
        let x ← bindText (c.enter "StickySettings" "mode") v s.mode
        return { s with mode := x }
      | some "ttl" => do
        let x ← bindWhole (c.enter "StickySettings" "ttl") v s.ttl
        return { s with ttl := x }
      | some "rules" => do
        let x ← bindTextList (c.enter "StickySettings" "rules") v s.rules
        return { s with rules := x }
      | _ => pure s) s
  | v => .error ⟨kindWord v, "settings.StickySettings", c⟩

def StickySettings.bind (c : BindContext) (j : Json) (s : StickySettings) :
    Except Mismatch StickySettings :=
  (StickyDraft.bind c j s.draft).map StickyDraft.settings

/-- Read a module that may be absent: `null` makes it absent, anything else is read onto the
current settings or onto empty ones. -/
def bindModule {α : Type} (bind : BindContext → Json → α → Except Mismatch α) (empty : α)
    (field : String) (j : Json) (current : Option α) : Except Mismatch (Option α) :=
  match j with
  | .null => .ok none
  | v => (bind (({} : BindContext).enter "RuntimeSettings" field) v (current.getD empty)).map some

/-- Read the text of a settings file; absent modules get their built-in settings. A module
named twice is read twice onto the same draft. -/
def readSettingsFile (text : String) : Except ReadError RuntimeSettings := do
  let j ← (Json.parse text).mapError ReadError.malformed
  let start : Option SelectorSettings × Option RoutingDraft × Option StickyDraft :=
    (none, none, none)
  let (selector, routing, sticky) ← ((match j with
    | .null => .ok start
    | .object ms => ms.foldlM (fun (acc : Option SelectorSettings × Option RoutingDraft ×
          Option StickyDraft) (k, v) =>
        let (sel, rt, st) := acc
        match fieldFor ["selector", "routing", "sticky"] k with
        | some "selector" => do
          return (← bindModule SelectorSettings.bind SelectorSettings.empty "selector" v sel, rt, st)
        | some "routing" => do
          return (sel, ← bindModule RoutingDraft.bind RoutingSettings.empty.draft "routing" v rt, st)
        | some "sticky" => do
          return (sel, rt, ← bindModule StickyDraft.bind StickySettings.empty.draft "sticky" v st)
        | _ => pure acc) start
    | v => .error ⟨kindWord v, "settings.RuntimeSettings", {}⟩) :
      Except Mismatch (Option SelectorSettings × Option RoutingDraft × Option StickyDraft)).mapError
      ReadError.mismatch
  return ⟨selector.getD SelectorSettings.builtin,
    (routing.map RoutingDraft.settings).getD RoutingSettings.builtin,
    (sticky.map StickyDraft.settings).getD StickySettings.builtin⟩

def settingsFileText (s : RuntimeSettings) : Except String String :=
  let x := s.selector.healthyThreshold
  if x.isNaN || x.isInf then .error ("json: unsupported value: " ++ Decimal.formatFloat .general x)
  else .ok (Json.pretty s.toJson)

end ProxyRouter.Settings
