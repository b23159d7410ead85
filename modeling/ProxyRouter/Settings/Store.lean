import ProxyRouter.Settings.Codec
/-!
The settings store: the current runtime settings, kept in memory or also in a settings file.
-/
namespace ProxyRouter.Settings

/-- Why an update was refused. -/
inductive UpdateFault where
  /-- no module has this name -/
  | unknownModule (name : String)
  /-- the text could not be read as the module's settings -/
  | unreadable (module : String) (cause : ReadError)
  /-- the settings file could not be written -/
  | unwritable (cause : String)
deriving Repr

def UpdateFault.message : UpdateFault → String
  | .unknownModule n => "unknown settings module: " ++ n
  | .unreadable m c => "failed to parse JSON for module " ++ m ++ ": " ++ c.message
  | .unwritable c => "failed to save updated settings to disk: " ++ c

def UpdateFault.isDecoding : UpdateFault → Bool
  | .unreadable .. => true
  | _ => false

/-- Why a store could not be opened. -/
inductive OpenFault where
  /-- the settings file could not be read -/
  | unreadable (cause : ReadError)
  /-- the missing settings file could not be created -/
  | unwritable (cause : String)
deriving Repr

def OpenFault.message : OpenFault → String
  | .unreadable c => "failed to load initial settings: failed to parse settings.json: " ++ c.message
  | .unwritable c => "failed to load initial settings: failed to write default settings file: " ++ c

def OpenFault.isDecoding : OpenFault → Bool
  | .unreadable _ => true
  | _ => false

/-- The settings and, for a store with a file, the file's text. -/
structure SettingsStore where
  current : RuntimeSettings
  file : Option String := none
deriving Repr

namespace SettingsStore

def inMemory (defaults : Option RuntimeSettings) : SettingsStore :=
  { current := defaults.getD RuntimeSettings.builtin }

def withFile (stored : Option String) (defaults : Option RuntimeSettings) :
    Except OpenFault SettingsStore :=
  match stored with
  | none =>
    let d := defaults.getD RuntimeSettings.builtin
    match settingsFileText d with
    | .ok text => .ok { current := d, file := some text }
    | .error e => .error (.unwritable e)
  | some text =>
    match readSettingsFile text with
    | .ok s => .ok { current := s, file := some text }
    | .error e => .error (.unreadable e)

/-- Read a module's JSON text onto a copy of its current settings, in which no list is
absent. -/
def readModule (current : RuntimeSettings) (module text : String) :
    Except UpdateFault (Payload × RuntimeSettings) := do
  let current := current.copy
  let top : Json.BindContext := {}
  let parsed (m : String) : Except UpdateFault Json :=
    (Json.parse text).mapError fun e => .unreadable m (.malformed e)
  let bound {α : Type} (m : String) (r : Except Json.Mismatch α) : Except UpdateFault α :=
    r.mapError fun e => .unreadable m (.mismatch e)
  if module == selectorKey then
    let s ← bound module (SelectorSettings.bind top (← parsed module) current.selector)
    return (.selector s, { current with selector := s })
  else if module == routingKey then
    let r ← bound module (RoutingSettings.bind top (← parsed module) current.routing)
    return (.routing r, { current with routing := r })
  else if module == stickyKey then
    let s ← bound module (StickySettings.bind top (← parsed module) current.sticky)
    return (.sticky s, { current with sticky := s })
  else throw (.unknownModule module)

/-- Apply an update: the module's new settings, and the store after writing its file. -/
def update (st : SettingsStore) (module text : String) :
    Except UpdateFault (Payload × SettingsStore) := do
  let (payload, next) ← readModule st.current module text
  match st.file with
  | none => return (payload, { st with current := next })
  | some _ =>
    match settingsFileText next with
    | .ok fileText => return (payload, { current := next, file := some fileText })
    | .error e => throw (.unwritable e)

end SettingsStore

/-- Tell the subscribers of a module, in order, each reacting on a shared state: the first
failure and the state after all have reacted. -/
def notifySubscribers {σ : Type} (module : String)
    (subscribers : List (String × (σ → Option String × σ))) (s : σ) : Option String × σ :=
  subscribers.foldl (fun (acc : Option String × σ) (sub : String × (σ → Option String × σ)) =>
    if sub.1 != module then acc
    else
      let (err, s) := sub.2 acc.2
      (acc.1 <|> err, s)) (none, s)

/-- Why a synchronous update failed: it was refused, or a subscriber failed after the new
settings were stored. -/
inductive SyncFailure where
  | refused (fault : UpdateFault)
  | subscriber (message : String)
deriving Repr

namespace SettingsStore

/-- `Update`: store the module's new settings, then hand them to the module's subscribers, each
given as its module and its reaction to new settings on a state shared by all. A subscriber's
failure is not the update's. The subscribers are told from a goroutine of the update's own;
here they have been told before anything else happens. -/
def updateAsync {σ : Type} (st : SettingsStore)
    (subscribers : List (String × (Payload → σ → Option String × σ))) (module text : String)
    (s : σ) : Option UpdateFault × SettingsStore × σ :=
  match st.update module text with
  | .error f => (some f, st, s)
  | .ok (p, next) =>
    (none, next, (notifySubscribers module (subscribers.map fun sub => (sub.1, sub.2 p)) s).2)

/-- `UpdateSync`: store the module's new settings and hand them to its subscribers at once; the
first subscriber failure is the update's, the new settings staying stored. -/
def updateSync {σ : Type} (st : SettingsStore)
    (subscribers : List (String × (Payload → σ → Option String × σ))) (module text : String)
    (s : σ) : Option SyncFailure × SettingsStore × σ :=
  match st.update module text with
  | .error f => (some (.refused f), st, s)
  | .ok (p, next) =>
    let told := notifySubscribers module (subscribers.map fun sub => (sub.1, sub.2 p)) s
    (told.1.map .subscriber, next, told.2)

end SettingsStore

end ProxyRouter.Settings
