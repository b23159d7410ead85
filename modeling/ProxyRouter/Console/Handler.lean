import ProxyRouter.Console.Http
import ProxyRouter.Console.State
import ProxyRouter.Settings.Codec
import ProxyRouter.Pool.Roster
import ProxyRouter.Metrics.Exposition
import ProxyRouter.Routing.Rule
/-!
The management console's HTTP API.
-/
namespace ProxyRouter.Console

open Settings Selection Health Pool

/-- Why the backend could not do what was asked. -/
inductive Fault where
  /-- no proxy could be chosen -/
  | noCandidate (message : String)
  /-- the proxy is not in the roster -/
  | unknownProxy (message : String)
  /-- the request was given up -/
  | canceled
  /-- the request ran out of time -/
  | deadlineExceeded
  /-- any other failure -/
  | other (message : String)
deriving Repr

def Fault.message : Fault → String
  | .noCandidate m => m
  | .unknownProxy m => m
  | .canceled => "context canceled"
  | .deadlineExceeded => "context deadline exceeded"
  | .other m => m

def Fault.code : Fault → String
  | .noCandidate _ => "no_candidate"
  | .unknownProxy _ => "unknown_proxy"
  | .canceled => "canceled"
  | .deadlineExceeded => "deadline"
  | .other _ => "error"

/-- The fault of a short name, with the standard text of the named faults; any other name is a
fault with that text. -/
def Fault.ofCode (code : String) : Fault :=
  match code with
  | "no_candidate" => .noCandidate "no candidate proxy available"
  | "unknown_proxy" => .unknownProxy "proxy not in roster"
  | "canceled" => .canceled
  | "deadline" => .deadlineExceeded
  | name => .other name

def Fault.status : Fault → Nat
  | .noCandidate _ => 503
  | .unknownProxy _ => 404
  | .canceled => 504
  | .deadlineExceeded => 504
  | .other _ => 500

/-- What the console needs from the backend, over its state `σ`. -/
structure Backend (σ : Type) where
  /-- the router's shared state -/
  shared : σ → RouterState
  /-- the backend with new shared state -/
  withShared : σ → RouterState → σ
  /-- switch the engine to a named proxy, or to one chosen by a strategy, and probe it -/
  switchProxy : σ → String → String → Except Fault (ProxyIdentity × HealthSample) × σ
  /-- check the whole roster -/
  runHealthCheck : σ → Except Fault Summary × σ
  /-- the roster's status -/
  rosterStatus : σ → RosterStatus
  /-- the engine's version -/
  engineVersion : σ → Except Fault String × σ

def metricsContentType : String := "text/plain; version=0.0.4; charset=utf-8; escaping=values"

def strategyFor (s : RouterState) (name : String) : Option Strategy :=
  if name.isEmpty then some s.router.selector.config.strategy
  else
    match Strategy.parse name with
    | (st, true) => some st
    | (_, false) => none

def insertNamed {α : Type} (e : String × α) : List (String × α) → List (String × α)
  | [] => [e]
  | f :: fs => if e.1 < f.1 then e :: f :: fs else f :: insertNamed e fs

def sortNamed {α : Type} (xs : List (String × α)) : List (String × α) :=
  xs.foldl (fun acc e => insertNamed e acc) []

def statusReport {σ : Type} (b : Backend σ) (st : σ) : Json × σ :=
  let s := b.shared st
  let (version, st) := b.engineVersion st
  let engine := match version with
    | .ok v => if v.isEmpty then [] else [("engine_version", Json.string v)]
    | .error f => if f.message.isEmpty then [] else [("engine_error", Json.string f.message)]
  (.object ([("status", .string s.status),
    ("status_since", .string (s.clock.since s.statusSince).text)] ++ engine ++
    [("health_strategy", .string s.checker.strategy.name),
    ("background_running", .bool s.checker.backgroundRunning),
    ("selector_strategy", .string s.router.selector.config.strategy.name),
    ("roster", (b.rosterStatus st).toJson),
    ("selector", s.router.selector.statistics.toJson)]), st)

def proxyViews (s : RouterState) : Json :=
  let history := s.checker.allInfo
  let next := s.checker.nextChecks
  .array (s.router.selector.states.map fun st =>
    let base := match st.toJson with
      | .object ms => ms
      | _ => []
    .object (base ++
      (match history.find? (·.1 == st.identity.name) with
        | some (_, i) => [("history", i.toJson)]
        | none => []) ++
      (match next.find? (·.1 == st.identity.name) with
        | some (_, t) => [("next_check", .time t)]
        | none => [])))

def statsView (s : RouterState) : Json :=
  .object [("selector", s.router.selector.statistics.toJson), ("routing", s.router.matcher.stats.toJson),
    ("recent_targets", Json.strings s.router.recent),
    ("sticky", sessionsJson (s.router.sticky.entries s.clock))]

def healthView (s : RouterState) : Json :=
  .object [("strategy", .string s.checker.strategy.name),
    ("background_running", .bool s.checker.backgroundRunning),
    ("history", infoMap (sortNamed s.checker.allInfo)),
    ("next_checks", .object ((sortNamed s.checker.nextChecks).map fun (n, t) => (n, .time t)))]

def rulesView (s : RouterState) : List (String × Json) :=
  [("rules", s.router.matcher.rules.toJson), ("stats", s.router.matcher.stats.toJson)]

/-- The list of texts of a request body `{"rules": [...]}`; `none` when the body is not such
an object. -/
def rulesOfBody (body : String) : Option (Option (List String)) :=
  match Json.parsePrefix body with
  | .error _ => none
  | .ok .null => some none
  | .ok (.object ms) =>
    let rules := ms.foldlM (fun (acc : Option Json.TextList) (k, v) =>
      match Json.fieldFor ["rules"] k with
      | some _ =>
        match Json.bindTextList {} v acc with
        | .ok r => some r
        | .error _ => none
      | none => some acc) none
    rules.map (Option.map (·.items))
  | .ok _ => none

def uniq (xs : List String) : List String :=
  xs.foldl (fun acc x => if acc.contains x then acc else acc ++ [x]) []

/-- Store new routing settings and answer with the rules in force, and the rejected texts
when given. -/
def updateRouting (s : RouterState) (rs : RoutingSettings) (invalid : Option (List String)) :
    ApiResponse × RouterState :=
  match s.updateSettings routingKey (Json.compact rs.toJson) with
  | (.applied, s) =>
    (jsonResponse 200 (.object (rulesView s ++
      match invalid with
      | some xs => [("invalid", Json.strings xs)]
      | none => [])), s)
  | (.refused f, s) => (errorResponse 500 f.message, s)
  | (.notTaken e, s) => (errorResponse 500 e, s)

/-- What a request that changes the routing settings does once it has read them: answer at
once, or store new routing settings, reporting the rejected texts when given. -/
inductive RoutingPlan where
  | answer (response : ApiResponse)
  | store (settings : RoutingSettings) (invalid : Option (List String))

def RoutingPlan.carryOut (s : RouterState) : RoutingPlan → ApiResponse × RouterState
  | .answer r => (r, s)
  | .store rs invalid => updateRouting s rs invalid

/-- `POST /api/rules` with this body, the routing settings read being `current`: the valid texts
are added after the current rules, without repeats. -/
def rulesPlan (current : RoutingSettings) (body : String) : RoutingPlan :=
  match rulesOfBody body with
  | none => .answer (errorResponse 400 "failed to parse JSON body")
  | some rules =>
    let raws := rules.getD []
    let valid := raws.filter fun raw => (Routing.Rule.parse raw).toOption.isSome
    let invalid := raws.filter fun raw => (Routing.Rule.parse raw).toOption.isNone
    .store { current with rules := some (uniq ((current.rules.getD []) ++ valid)) } (some invalid)

/-- `POST /api/rules/defaults` with this template, empty for the built-in rules, the routing
settings read being `current`. -/
def defaultsPlan (current : RoutingSettings) (name : String) : RoutingPlan :=
  if name.isEmpty then .store { current with useDefaults := true } none
  else if !Routing.templateNames.contains name then
    .answer (errorResponse 404 ("unknown template: " ++ name))
  else .store { current with templates := some (uniq ((current.templates.getD []) ++ [name])) } none

def handleRules (s : RouterState) (r : ApiRequest) : ApiResponse × RouterState :=
  match r.method with
  | "GET" =>
    (jsonResponse 200 (.object (rulesView s ++
      [("settings", s.settings.current.routing.toJson), ("templates", Json.strings Routing.templateNames)])), s)
  | "POST" => (rulesPlan s.settings.current.routing r.body).carryOut s
  | "DELETE" => updateRouting s ⟨false, some [], some []⟩ none
  | _ => (methodNotAllowed ["GET", "POST", "DELETE"], s)

def handleLoadDefaults (s : RouterState) (r : ApiRequest) : ApiResponse × RouterState :=
  (defaultsPlan s.settings.current.routing (r.query "template")).carryOut s

def handleRoute (s : RouterState) (r : ApiRequest) : ApiResponse × RouterState :=
  let target : Routing.Target := ⟨r.queryBytes "target"⟩
  let strategy := r.query "strategy"
  if target.host.isEmpty then (errorResponse 400 "target is required", s)
  else if (strategyFor s strategy).isNone then (errorResponse 400 ("unknown strategy: " ++ strategy), s)
  else
    match s.route target strategy with
    | (.ok d, s) => (jsonResponse 200 d.toJson, s)
    | (.error e, s) => (errorResponse 503 e.message, s)

def handleSelect (s : RouterState) (r : ApiRequest) : ApiResponse × RouterState :=
  let name := r.query "strategy"
  match strategyFor s name with
  | none => (errorResponse 400 ("unknown strategy: " ++ name), s)
  | some st =>
    match s.select st with
    | (.ok id, s) => (jsonResponse 200 (.object [("strategy", .string st.name), ("proxy", id.toJson)]), s)
    | (.error e, s) => (errorResponse 503 e.message, s)

def handleUpdateSettings (s : RouterState) (r : ApiRequest) : ApiResponse × RouterState :=
  let module := if r.path.startsWith "/api/settings/" then r.path.drop "/api/settings/".length |>.toString
    else r.path
  if module.isEmpty then (textError 400 "Module key is missing in URL path", s)
  else
    match s.updateSettings module r.body with
    | (.applied, s) => (jsonResponse 200 (.object [("message", .string "Settings updated successfully")]), s)
    | (.refused f, s) =>
      (errorResponse (match f with
        | .unknownModule _ => 404
        | .unreadable _ _ => 400
        | .unwritable _ => 500) f.message, s)
    | (.notTaken e, s) => (errorResponse 500 e, s)

def onShared {σ : Type} (b : Backend σ) (st : σ) (f : RouterState → ApiResponse × RouterState) :
    ApiResponse × σ :=
  let (resp, s) := f (b.shared st)
  (resp, b.withShared st s)

def routeMethods : List (String × List String) :=
  [("/api/status", ["GET"]), ("/api/proxies", ["GET"]), ("/api/stats", ["GET"]),
    ("/api/health", ["GET"]), ("/api/health/check", ["POST"]),
    ("/api/rules", ["GET", "POST", "DELETE"]), ("/api/rules/defaults", ["POST"]),
    ("/api/route", ["GET"]), ("/api/select", ["GET"]), ("/api/switch", ["POST"]),
    ("/api/settings", ["GET"]), ("/api/settings/", ["POST"])]

def serveRoute {σ : Type} (b : Backend σ) (st : σ) (route : String) (r : ApiRequest) : ApiResponse × σ :=
  let s := b.shared st
  match route with
  | "/api/status" => let (j, st) := statusReport b st; (jsonResponse 200 j, st)
  | "/api/proxies" => (jsonResponse 200 (proxyViews s), st)
  | "/api/stats" => (jsonResponse 200 (statsView s), st)
  | "/api/health" => (jsonResponse 200 (healthView s), st)
  | "/api/health/check" =>
    match b.runHealthCheck st with
    | (.ok sum, st) => (jsonResponse 200 sum.toJson, st)
    | (.error f, st) => (errorResponse 500 f.message, st)
  | "/api/rules" => onShared b st fun s => handleRules s r
  | "/api/rules/defaults" => onShared b st fun s => handleLoadDefaults s r
  | "/api/route" => onShared b st fun s => handleRoute s r
  | "/api/select" => onShared b st fun s => handleSelect s r
  | "/api/switch" =>
    let name := r.query "name"
    let strategy := r.query "strategy"
    if name.isEmpty && (strategyFor s strategy).isNone then
      (errorResponse 400 ("unknown strategy: " ++ strategy), st)
    else
      match b.switchProxy st name strategy with
      | (.ok (id, sample), st) =>
        (jsonResponse (if sample.success then 200 else 502)
          (.object [("proxy", id.toJson), ("sample", sample.toJson)]), st)
      | (.error f, st) => (errorResponse f.status f.message, st)
  | "/api/settings" => (jsonResponse 200 s.settings.current.toJson, st)
  | "/api/settings/" => onShared b st fun s => handleUpdateSettings s r
  | _ => (notFound, st)

def segmentText (seg : String) : String :=
  match Net.unescape .path seg.toList with
  | .ok t => t
  | .error _ => seg

def routeOf (path : String) : Option String :=
  let segs := ((path.drop 1).toString.splitOn "/").map segmentText
  let exact := ["/api/status", "/api/proxies", "/api/stats", "/api/health", "/api/health/check",
    "/api/rules", "/api/rules/defaults", "/api/route", "/api/select", "/api/switch",
    "/api/settings", "/metrics", "/ws"]
  match exact.find? (fun p => ((p.drop 1).toString.splitOn "/") == segs) with
  | some p => some p
  | none => if segs.length > 2 && segs.take 2 == ["api", "settings"] then some "/api/settings/" else none

def handle {σ : Type} (b : Backend σ) (st : σ) (r : ApiRequest) : ApiResponse × σ :=
  let escaped := r.escapedPath
  let clean := cleanPath escaped
  if clean != escaped then
    let location := clean ++ (if r.rawQuery.isEmpty then "" else "?" ++ r.rawQuery)
    (redirect r.method location, st)
  else
    match routeOf clean with
    | none => (notFound, st)
    | some "/metrics" =>
      ({ status := 200, contentType := metricsContentType,
         body := String.join ((b.shared st).metrics.exposition.map (· ++ "\n")) }, st)
    | some "/ws" => (textError 400 "Bad Request", st)
    | some route =>
      let access := (b.shared st).access
      let guarded := route != "/api/status" && !access.webUser.isEmpty && !access.webPassword.isEmpty
      if guarded && r.credentials != some (access.webUser, access.webPassword) then (unauthorized, st)
      else
        let methods := ((routeMethods.find? (·.1 == route)).map (·.2)).getD []
        if !methods.contains r.method then (methodNotAllowed methods, st)
        else serveRoute b st route r

end ProxyRouter.Console
