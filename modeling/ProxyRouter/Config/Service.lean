import ProxyRouter.Json.Value
/-!
The service configuration: how to reach the proxy engine, how to check health, how to select
and route, where the roster comes from, the local console and logging. Every option has a
default; a configuration file and the environment change some of them.
-/
namespace ProxyRouter.Config

/-- The proxy engine's controller. Timeouts are in seconds. -/
structure EngineOptions where
  apiBase : String := "http://127.0.0.1:9090"
  secret : String := ""
  group : String := "PROXY"
  ingress : String := "http://127.0.0.1:7890"
  requestTimeout : Int := 10
  retryCount : Int := 3
deriving Repr, Inhabited

/-- Health checking. Times are in seconds, the age of histories in hours. -/
structure HealthOptions where
  strategy : String := "adaptive"
  timeout : Int := 15
  requestTimeout : Int := 10
  maxConcurrent : Int := 10
  testUrls : Option (List String) :=
    some ["http://httpbin.org/ip", "http://www.gstatic.com/generate_204",
      "https://www.google.com/generate_204"]
  minSuccessRate : Float := 0.1
  stopOnFirstSuccess : Bool := false
  baseInterval : Int := 300
  minInterval : Int := 60
  maxInterval : Int := 1800
  windowSize : Int := 10
  maxAgeHours : Int := 24
  autoStart : Bool := true
deriving Repr, Inhabited

/-- Proxy selection. -/
structure SelectorOptions where
  strategy : String := "health_weighted"
  healthyThreshold : Float := 0.1
  fallbackToAll : Bool := true
deriving Repr, Inhabited

/-- Routing rules. -/
structure RoutingOptions where
  cacheSize : Int := 1000
  enableDefaultRules : Bool := true
  rules : Option (List String) := none
  templates : Option (List String) := none
deriving Repr, Inhabited

/-- Where the roster comes from; times in seconds. -/
structure RosterOptions where
  file : String := "proxies.yaml"
  useController : Bool := false
  refreshInterval : Int := 600
  snapshotFile : String := "health_snapshot.txt"
deriving Repr, Inhabited

/-- The local console. -/
structure ConsoleOptions where
  webPort : Int := 8090
  webUser : String := ""
  webPassword : String := ""
deriving Repr, Inhabited

/-- Logging. -/
structure LogOptions where
  level : String := "info"
  format : String := "console"
deriving Repr, Inhabited

/-- The whole service configuration. -/
structure ServiceConfig where
  engine : EngineOptions := {}
  health : HealthOptions := {}
  selector : SelectorOptions := {}
  routing : RoutingOptions := {}
  roster : RosterOptions := {}
  console : ConsoleOptions := {}
  log : LogOptions := {}
deriving Repr, Inhabited

def ServiceConfig.defaults : ServiceConfig := {}

def ServiceConfig.toJson (c : ServiceConfig) : Json :=
  .object [
    ("engine", .object [("api_base", .string c.engine.apiBase), ("secret", .string c.engine.secret),
      ("group", .string c.engine.group), ("ingress", .string c.engine.ingress),
      ("request_timeout", .int c.engine.requestTimeout), ("retry_count", .int c.engine.retryCount)]),
    ("health", .object [("strategy", .string c.health.strategy), ("timeout", .int c.health.timeout),
      ("request_timeout", .int c.health.requestTimeout),
      ("max_concurrent", .int c.health.maxConcurrent),
      ("test_urls", Json.stringsOrNull c.health.testUrls),
      ("min_success_rate", Json.float c.health.minSuccessRate),
      ("stop_on_first_success", .bool c.health.stopOnFirstSuccess),
      ("base_interval", .int c.health.baseInterval), ("min_interval", .int c.health.minInterval),
      ("max_interval", .int c.health.maxInterval), ("window_size", .int c.health.windowSize),
      ("max_age_hours", .int c.health.maxAgeHours), ("auto_start", .bool c.health.autoStart)]),
    ("selector", .object [("strategy", .string c.selector.strategy),
      ("healthy_threshold", Json.float c.selector.healthyThreshold),
      ("fallback_to_all", .bool c.selector.fallbackToAll)]),
    ("routing", .object [("cache_size", .int c.routing.cacheSize),
      ("enable_default_rules", .bool c.routing.enableDefaultRules),
      ("rules", Json.stringsOrNull c.routing.rules),
      ("templates", Json.stringsOrNull c.routing.templates)]),
    ("roster", .object [("file", .string c.roster.file), ("use_controller", .bool c.roster.useController),
      ("refresh_interval", .int c.roster.refreshInterval),
      ("snapshot_file", .string c.roster.snapshotFile)]),
    ("local", .object [("web_port", .int c.console.webPort), ("web_user", .string c.console.webUser),
      ("web_password", .string c.console.webPassword)]),
    ("log", .object [("level", .string c.log.level), ("format", .string c.log.format)])]

end ProxyRouter.Config
