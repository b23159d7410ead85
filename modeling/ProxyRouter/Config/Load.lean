import ProxyRouter.Config.Service
import ProxyRouter.Config.Ini
import ProxyRouter.Config.Dotenv
import ProxyRouter.Decimal.Read
import ProxyRouter.Settings.Modules
import ProxyRouter.Time.Stamp
/-!
Loading the service configuration. The environment file beside the configuration file is read
first: each of its keys that the environment does not have yet joins the environment (a
malformed file adds nothing). Then the configuration file's sections `engine`, `health`,
`selector`, `routing`, `roster`, `local` and `log` replace the defaults of the options they name
(section and option names keep their case; an empty value, or one that does not read as the
option's type, leaves it alone). Last, environment variables `CRAWLADAPTER_...` that are not empty override a
few options; a number that does not read leaves the option alone.
-/
namespace ProxyRouter.Config

def readFlag : String → Option Bool
  | "1" | "t" | "T" | "true" | "TRUE" | "True" | "YES" | "yes" | "Yes" | "y" | "ON" | "on"
  | "On" => some true
  | "0" | "f" | "F" | "false" | "FALSE" | "False" | "NO" | "no" | "No" | "n" | "OFF" | "off"
  | "Off" => some false
  | _ => none

/-- The pieces of a comma-separated list. A backslash keeps a following comma or backslash as
it is and stays before any other character; pieces lose their surrounding blanks, and an empty
last piece is dropped. -/
def splitList (s : String) : List String :=
  go false [] [] s.toList
where
  /-- Walk the characters with the piece so far and the pieces before it. -/
  go (escaped : Bool) (piece : List Char) (done : List String) : List Char → List String
    | [] => if piece.isEmpty then done else done ++ [Text.trimBlank (String.ofList piece)]
    | c :: cs =>
      if escaped then
        go false (if c != '\\' && c != ',' then piece ++ ['\\', c] else piece ++ [c]) done cs
      else if c == '\\' then go true piece done cs
      else if c == ',' then go false [] (done ++ [Text.trimBlank (String.ofList piece)]) cs
      else go false (piece ++ [c]) done cs

/-- Options of one section of a configuration file, each kept when the file does not give a
value of its type. -/
structure SectionValues where
  file : IniFile
  name : String

namespace SectionValues

def text (s : SectionValues) (key : String) (v : String) : String :=
  match s.file.value? s.name key with
  | some t => if t.isEmpty then v else t
  | none => v

def int (s : SectionValues) (key : String) (v : Int) : Int :=
  match s.file.value? s.name key with
  | some t => match Decimal.readInt t true with
    | .ok n => n
    | .error _ => v
  | none => v

def real (s : SectionValues) (key : String) (v : Float) : Float :=
  match s.file.value? s.name key with
  | some t => match Decimal.readFloat t with
    | .ok x => x
    | .error _ => v
  | none => v

def flag (s : SectionValues) (key : String) (v : Bool) : Bool :=
  match s.file.value? s.name key with
  | some t => (readFlag t).getD v
  | none => v

def list (s : SectionValues) (key : String) (v : Option (List String)) : Option (List String) :=
  match s.file.value? s.name key with
  | some t => match splitList t with
    | [] => v
    | xs => some xs
  | none => v

end SectionValues

def withSection {α : Type} (f : IniFile) (name : String) (v : α) (apply : SectionValues → α → α) : α :=
  match f.findSection name with
  | some _ => apply ⟨f, name⟩ v
  | none => v

def ServiceConfig.applyFile (c : ServiceConfig) (f : IniFile) : ServiceConfig :=
  { engine := withSection f "engine" c.engine fun s e =>
      { apiBase := s.text "api_base" e.apiBase, secret := s.text "secret" e.secret,
        group := s.text "group" e.group, ingress := s.text "ingress" e.ingress,
        requestTimeout := s.int "request_timeout" e.requestTimeout,
        retryCount := s.int "retry_count" e.retryCount }
    health := withSection f "health" c.health fun s h =>
      { strategy := s.text "strategy" h.strategy, timeout := s.int "timeout" h.timeout,
        requestTimeout := s.int "request_timeout" h.requestTimeout,
        maxConcurrent := s.int "max_concurrent" h.maxConcurrent,
        testUrls := s.list "test_urls" h.testUrls,
        minSuccessRate := s.real "min_success_rate" h.minSuccessRate,
        stopOnFirstSuccess := s.flag "stop_on_first_success" h.stopOnFirstSuccess,
        baseInterval := s.int "base_interval" h.baseInterval,
        minInterval := s.int "min_interval" h.minInterval,
        maxInterval := s.int "max_interval" h.maxInterval,
        windowSize := s.int "window_size" h.windowSize,
        maxAgeHours := s.int "max_age_hours" h.maxAgeHours,
        autoStart := s.flag "auto_start" h.autoStart }
    selector := withSection f "selector" c.selector fun s o =>
      { strategy := s.text "strategy" o.strategy,
        healthyThreshold := s.real "healthy_threshold" o.healthyThreshold,
        fallbackToAll := s.flag "fallback_to_all" o.fallbackToAll }
    routing := withSection f "routing" c.routing fun s r =>
      { cacheSize := s.int "cache_size" r.cacheSize,
        enableDefaultRules := s.flag "enable_default_rules" r.enableDefaultRules,
        rules := s.list "rules" r.rules, templates := s.list "templates" r.templates }
    roster := withSection f "roster" c.roster fun s r =>
      { file := s.text "file" r.file, useController := s.flag "use_controller" r.useController,
        refreshInterval := s.int "refresh_interval" r.refreshInterval,
        snapshotFile := s.text "snapshot_file" r.snapshotFile }
    console := withSection f "local" c.console fun s l =>
      { webPort := s.int "web_port" l.webPort, webUser := s.text "web_user" l.webUser,
        webPassword := s.text "web_password" l.webPassword }
    log := withSection f "log" c.log fun s l =>
      { level := s.text "level" l.level, format := s.text "format" l.format } }

def envPrefix : String := "CRAWLADAPTER_"

def envValue (env : List (String × String)) (name : String) : Option String :=
  match env.find? (·.1 == envPrefix ++ name) with
  | some (_, v) => if v.isEmpty then none else some v
  | none => none

def envText (env : List (String × String)) (name : String) (v : String) : String :=
  (envValue env name).getD v

def envInt (env : List (String × String)) (name : String) (v : Int) : Int :=
  match envValue env name with
  | some t => match Decimal.readInt t with
    | .ok n => n
    | .error _ => v
  | none => v

def envReal (env : List (String × String)) (name : String) (v : Float) : Float :=
  match envValue env name with
  | some t => match Decimal.readFloat t with
    | .ok x => x
    | .error _ => v
  | none => v

def ServiceConfig.applyEnv (c : ServiceConfig) (env : List (String × String)) : ServiceConfig :=
  { c with
    engine := { c.engine with
      apiBase := envText env "ENGINE_API_BASE" c.engine.apiBase,
      secret := envText env "ENGINE_SECRET" c.engine.secret,
      group := envText env "ENGINE_GROUP" c.engine.group,
      ingress := envText env "INGRESS" c.engine.ingress }
    log := { level := envText env "LOG_LEVEL" c.log.level, format := envText env "LOG_FORMAT" c.log.format }
    health := { c.health with
      strategy := envText env "HEALTH_STRATEGY" c.health.strategy,
      timeout := envInt env "HEALTH_TIMEOUT" c.health.timeout,
      maxConcurrent := envInt env "HEALTH_MAX_CONCURRENT" c.health.maxConcurrent,
      baseInterval := envInt env "HEALTH_BASE_INTERVAL" c.health.baseInterval,
      minSuccessRate := envReal env "HEALTH_MIN_SUCCESS_RATE" c.health.minSuccessRate }
    selector := { c.selector with
      strategy := envText env "SELECTOR_STRATEGY" c.selector.strategy,
      healthyThreshold := envReal env "SELECTOR_HEALTHY_THRESHOLD" c.selector.healthyThreshold }
    roster := { c.roster with file := envText env "ROSTER_FILE" c.roster.file }
    routing := { c.routing with cacheSize := envInt env "ROUTING_CACHE_SIZE" c.routing.cacheSize }
    console := { c.console with
      webUser := envText env "WEB_USER" c.console.webUser,
      webPassword := envText env "WEB_PASSWORD" c.console.webPassword,
      webPort := envInt env "WEB_PORT" c.console.webPort } }

/-- The environment can hold a variable: its name is not empty and has no `=` and no NUL
character, and its value has no NUL character. -/
def settable (name value : String) : Bool :=
  !name.isEmpty && !name.contains '=' && !name.contains '\x00' && !value.contains '\x00'

/-- The environment with a variable set, replacing its earlier value. Setting a variable the
environment cannot hold fails and leaves the environment as it was. -/
def setVariable (env : List (String × String)) (name value : String) : List (String × String) :=
  if settable name value then (name, value) :: env.filter (·.1 != name) else env

def environmentOf (vars : List (String × String)) : List (String × String) :=
  vars.foldl (fun env (k, v) => setVariable env k v) []

/-- The environment with an environment file's keys that it does not have yet; the last value
of a key in the file counts, and a key whose value the environment cannot hold is not set. A
malformed file adds nothing. -/
def withEnvFile (env : List (String × String)) (text : String) : List (String × String) :=
  match parseDotenv text with
  | .ok entries =>
    let last := entries.foldl (fun acc (k, v) => (k, v) :: acc.filter (·.1 != k)) []
    last.foldl (fun acc (k, v) => if env.any (·.1 == k) then acc else setVariable acc k v) env
  | .error _ => env

/-- Why loading the configuration stopped. -/
inductive LoadFailure where
  /-- the configuration file is missing or malformed -/
  | failed (message : String)
  /-- a value was stored where it cannot go, and loading stopped abruptly -/
  | crashed (message : String)
deriving Repr, DecidableEq

def LoadFailure.kind : LoadFailure → String
  | .failed _ => "error"
  | .crashed _ => "panic"

def LoadFailure.message : LoadFailure → String
  | .failed m | .crashed m => m

/-- The sections of a configuration file in the order they are applied, each with the name of
the group of options it holds. -/
def sectionGroups : List (String × String) :=
  [("engine", "EngineConf"), ("health", "HealthConf"), ("selector", "SelectorConf"),
    ("routing", "RoutingConf"), ("roster", "RosterConf"), ("local", "LocalConf"),
    ("log", "LogConf")]

/-- The group of options of the first section that the file lacks and that an option of the
default section stands in for with a timestamp. -/
def IniFile.timestampForSection? (f : IniFile) : Option String :=
  (sectionGroups.find? fun (name, _) =>
    (f.findSection name).isNone &&
      ((f.value? defaultSectionName name).bind Time.Stamp.readRfc3339).isSome).map (·.2)

/-- Load the configuration: the defaults `c`, the environment file's text if there is one, the
configuration file's text (absent when there is no file at `path`) and the environment. The
environment after reading the environment file is returned as well. -/
def loadConfig (c : ServiceConfig) (path : String) (file : Option String) (envFile : Option String)
    (env : List (String × String)) : Except LoadFailure ServiceConfig × List (String × String) :=
  let env := match envFile with
    | some t => withEnvFile env t
    | none => env
  match file with
  | none =>
    (.error (.failed ("failed to load ini file: open " ++ path ++ ": no such file or directory")), env)
  | some text =>
    match IniFile.parse text with
    | .error e => (.error (.failed ("failed to load ini file: " ++ e)), env)
    | .ok f =>
      match f.timestampForSection? with
      | some group =>
        (.error (.crashed ("reflect.Set: value of type time.Time is not assignable to type types." ++
          group)), env)
      | none => (.ok ((c.applyFile f).applyEnv env), env)

/-- The runtime settings a configuration starts with: its selector options and routing rules,
and the built-in sticky settings. -/
def ServiceConfig.runtimeDefaults (c : ServiceConfig) : Settings.RuntimeSettings :=
  { selector := ⟨c.selector.strategy, c.selector.healthyThreshold, c.selector.fallbackToAll⟩
    routing := ⟨c.routing.enableDefaultRules, some (c.routing.templates.getD []),
      some (c.routing.rules.getD [])⟩
    sticky := Settings.StickySettings.builtin }

end ProxyRouter.Config
