import ProxyRouter.Console.Handler
import ProxyRouter.Config.Load
import ProxyRouter.Engine.Client
import ProxyRouter.Engine.Ingress
import ProxyRouter.Pool.RosterFile
import ProxyRouter.Pool.Source
import ProxyRouter.App.Command
/-!
The router service: the console's shared state together with the engine client, the ingress,
the roster and the files of its configuration directory.
-/
namespace ProxyRouter.App

open Console Health Pool Selection

def directProxy : String := "DIRECT"

/-- Why the service could not be built. -/
structure StartupError where
  message : String
  /-- the error comes from reading JSON -/
  decoding : Bool := false
deriving Repr

/-- The service over the network's state `ν`. -/
structure Service (ν : Type) where
  config : Config.ServiceConfig
  shared : RouterState
  engine : Engine.EngineClient
  ingress : Engine.Ingress
  roster : Roster
  /-- the latest sample of each proxy -/
  lastResults : List (String × HealthSample) := []
  /-- the files of the configuration directory, by path -/
  files : List (String × String)
  network : Net.Network ν
  netState : ν

def resolvePath (p : String) : String :=
  if p.startsWith "/" then p else cleanFilePath p

def checkerOf (h : Config.HealthOptions) : Except String Checker := do
  let strategy ← HealthStrategy.parse h.strategy
  let probe : ProbeConfig := {
    targets := h.testUrls.getD [], timeout := Duration.ofSeconds h.timeout,
    minSuccessRate := h.minSuccessRate, stopOnFirstSuccess := h.stopOnFirstSuccess }
  let tracker := TrackerConfig.ofRequest h.windowSize (Duration.ofSeconds (h.maxAgeHours * 3600))
  return Checker.new strategy probe tracker
    ⟨Duration.ofSeconds h.baseInterval, Duration.ofSeconds h.minInterval, Duration.ofSeconds h.maxInterval⟩

namespace Service

variable {ν : Type}

def file? (s : Service ν) (path : String) : Option String :=
  ((s.files.find? (·.1 == resolvePath path)).map (·.2))

def writeFile (s : Service ν) (path text : String) : Service ν :=
  let p := resolvePath path
  { s with files := (s.files.filter (·.1 != p)) ++ [(p, text)] }

def create (cfg : Config.ServiceConfig) (files : List (String × String)) (network : Net.Network ν)
    (netState : ν) (clock : Instant) : Except StartupError (Service ν) := do
  let files := files.map fun (p, t) => (resolvePath p, t)
  let stored := (files.find? (·.1 == "settings.json")).map (·.2)
  let store ← (Settings.SettingsStore.withFile stored (some cfg.runtimeDefaults)).mapError fun e =>
    { message := "failed to initialize settings manager: " ++ e.message, decoding := e.isDecoding }
  let engine := Engine.EngineClient.new cfg.engine
  let ingress ← (Engine.Ingress.new cfg.engine.ingress (Duration.ofSeconds cfg.health.requestTimeout)).mapError
    fun e => { message := "invalid ingress: " ++ e }
  let checker ← (checkerOf cfg.health).mapError fun e => { message := e }
  let selector : SelectorConfig :=
    ⟨(Strategy.parse cfg.selector.strategy).1, cfg.selector.healthyThreshold, cfg.selector.fallbackToAll⟩
  let shared ← (RouterState.assemble store checker selector cfg.routing.cacheSize ingress.address clock).mapError
    fun e => { message := e }
  let sourceNames := (if cfg.roster.file.isEmpty then [] else [fileSourceName]) ++
    (if cfg.roster.useController then ["controller"] else [])
  let files := match store.file with
    | some text => (files.filter (·.1 != "settings.json")) ++ [("settings.json", text)]
    | none => files
  return {
    config := cfg, shared := shared, engine := engine, ingress := ingress,
    roster := { sources := sourceNames.map fun n => ⟨n, .ok []⟩, persistent := !cfg.roster.snapshotFile.isEmpty },
    files := files, network := network, netState := netState }

/-- The probe engine of the service: switching through the engine client, counted by the
metrics, and fetching through the ingress. -/
def probeEngine : ProbeEngine (Service ν) where
  switch s name :=
    let (r, ns) := s.engine.switchActive s.network s.netState name
    let ok := match r with
      | .ok b => b
      | .error _ => false
    (ok, { s with netState := ns, shared := { s.shared with metrics := s.shared.metrics.observeSwitch ok } })
  fetch s target :=
    match s.ingress.test s.network s.netState target with
    | (.ok code, ns) => (.status code, { s with netState := ns })
    | (.error e, ns) => (.failure e, { s with netState := ns })
  clock s := s.shared.clock
  -- the service's clock is the shared one, and no real time passes in it
  expired _ _ := false

/-- Keep a sample as the proxy's latest result unless the one kept is later. -/
def keepLatest (results : List (String × HealthSample)) (name : String) (sample : HealthSample) :
    List (String × HealthSample) :=
  let keep := match results.find? (·.1 == name) with
    | some (_, prev) => !(sample.timestamp < prev.timestamp)
    | none => true
  if keep then Selector.setNamed results name sample else results

/-- Take in one sample of a proxy. -/
def onSample (s : Service ν) (name : String) (sample : HealthSample) : Service ν :=
  let shared := s.shared.updateHealth [(name, sample)]
  let state := shared.checker.tracker.classify name
  let shared := { shared with metrics := shared.metrics.observeSample name sample state.code }
  { s with
    shared := shared, roster := s.roster.record name sample
    lastResults := keepLatest s.lastResults name sample }

def onSamples (s : Service ν) (samples : List (String × HealthSample)) : Service ν :=
  samples.foldl (fun s (n, x) => s.onSample n x) s

def withChecker (s : Service ν)
    (f : Checker → ProbeEngine (Service ν) → Service ν → List (String × HealthSample) × Checker × Service ν) :
    List (String × HealthSample) × Service ν :=
  let (samples, c, s) := f s.shared.checker probeEngine s
  (samples, { s with shared := { s.shared with checker := c } })

/-- Follow a changed roster up to the tick it wakes: the selector's roster, the histories and
the schedule, the gauges of the proxies that left and their latest results. -/
def followRoster (s : Service ν) (change : RosterChange) : Service ν :=
  let current := change.current
  let shared := s.shared.setRoster current
  { s with
    shared := { shared with
      checker := shared.checker.followRoster shared.clock current
      metrics := (shared.metrics.setRoster (names current) change.removed).observeRosterRefresh true
        current.length }
    lastResults := s.lastResults.filter (!change.removed.contains ·.1) }

def onRosterChange (s : Service ν) (change : RosterChange) : Service ν :=
  let (samples, s) := (s.followRoster change).withChecker fun c eng st => c.wake eng st
  s.onSamples samples

def controllerFetch (s : Service ν) : Except String (List ProxyIdentity) × Service ν :=
  match s.engine.fetchGroup s.network s.netState with
  | (.error e, ns) => (.error e.message, { s with netState := ns })
  | (.ok g, ns) =>
    match s.engine.fetchProxies s.network ns with
    | (.error e, ns) => (.error e.message, { s with netState := ns })
    | (.ok ps, ns) => (.ok (controllerRoster g ps), { s with netState := ns })

def fetchSources (s : Service ν) : List RosterSource × Service ν :=
  s.roster.sources.foldl (fun (acc : List RosterSource × Service ν) src =>
    let (done, s) := acc
    if src.name == fileSourceName then
      let fetched := match fetchRosterFile (s.file? s.config.roster.file) with
        | .ok ids => .ok (ids.getD [])
        | .error e => .error e.message
      (done ++ [⟨src.name, fetched⟩], s)
    else
      let (fetched, s) := s.controllerFetch
      (done ++ [⟨src.name, fetched⟩], s)) ([], s)

def refreshRoster (s : Service ν) : Service ν :=
  let (sources, s) := s.fetchSources
  let (_, change, roster) := ({ s.roster with sources := sources } : Roster).refresh s.shared.clock
  let s := { s with roster := roster }
  match change with
  | some c => c.announce [onRosterChange] s
  | none => s

def warmFromSnapshot (s : Service ν) : Service ν :=
  let stored := if s.config.roster.snapshotFile.isEmpty then none else s.file? s.config.roster.snapshotFile
  let (loaded, roster) := s.roster.loadSnapshot stored
  let s := { s with roster := roster }
  match loaded with
  | some samples =>
    if samples.isEmpty then s
    else
      { s with
        shared := s.shared.updateHealth samples
        lastResults := samples.foldl (fun acc (n, x) => Selector.setNamed acc n x) s.lastResults }
  | none => s

def setStatus (s : Service ν) (status : String) : Service ν :=
  if s.shared.status == status then s
  else { s with shared := { s.shared with status := status, statusSince := s.shared.clock } }

def run (s : Service ν) : Service ν :=
  let s := (s.setStatus "Starting").warmFromSnapshot.refreshRoster
  let s :=
    if s.config.health.autoStart && s.shared.checker.strategy == .adaptive then
      let roster := s.shared.router.selector.roster
      match s.shared.checker.startBackground probeEngine s roster with
      | .ok (samples, c, s) => ({ s with shared := { s.shared with checker := c } } : Service ν).onSamples samples
      | .error _ => s
    else s
  s.setStatus "Running"

def saveSnapshot (s : Service ν) : Service ν :=
  match s.roster.saveSnapshot with
  | some text => s.writeFile s.config.roster.snapshotFile text
  | none => s

def stop (s : Service ν) : Service ν :=
  let s := s.setStatus "Stopping"
  let s := { s with shared := { s.shared with checker := s.shared.checker.stopBackground } }
  (s.saveSnapshot).setStatus "Stopped"

def activeProxy (s : Service ν) : String × Service ν :=
  match s.engine.fetchGroup s.network s.netState with
  | (.ok g, ns) => (g.now, { s with netState := ns })
  | (.error _, ns) => ("", { s with netState := ns })

def switchProxy (s : Service ν) (name strategy : String) :
    Except Fault (ProxyIdentity × HealthSample) × Service ν :=
  let chosen : Except Fault ProxyIdentity × Service ν :=
    if !name.isEmpty then
      match s.shared.router.selector.lookup name with
      | some id => (.ok id, s)
      | none => (.error (.unknownProxy ("proxy not in roster: " ++ name)), s)
    else
      let st := if strategy.isEmpty then s.shared.router.selector.config.strategy
        else (Strategy.parse strategy).1
      let (active, s) := s.activeProxy
      let (result, sel) := s.shared.router.selector.selectExcluding s.shared.clock {} st [active, directProxy]
      let shared := { s.shared with router := { s.shared.router with selector := sel } }
      match result with
      | .ok c =>
        let shared := if c.counted then shared.observe [.selected st.name c.proxy.name] else shared
        (.ok c.proxy, { s with shared := shared })
      | .error e => (.error (.noCandidate e.message), { s with shared := shared })
  match chosen with
  | (.error f, s) => (.error f, s)
  | (.ok id, s) =>
    let (sample, s) := Health.probe s.shared.checker.probe probeEngine s id false
    (.ok (id, sample), s.onSample id.name sample)

def runHealthCheck (s : Service ν) : Except Fault Summary × Service ν :=
  let roster := s.shared.router.selector.roster
  if roster.isEmpty then (.ok {}, s)
  else
    let (samples, s) := s.withChecker fun c eng st => c.checkAll eng st roster false
    let s := (s.onSamples samples).saveSnapshot
    (.ok (summarize (resultMap samples)), s)

def lastSummary (s : Service ν) : Summary :=
  let keep := names s.shared.router.selector.roster
  summarize (s.lastResults.filter (keep.contains ·.1))

def engineVersion (s : Service ν) : Except Fault String × Service ν :=
  match s.engine.fetchVersion s.network s.netState with
  | (.ok v, ns) => (.ok v, { s with netState := ns })
  | (.error e, ns) => (.error (.other e.message), { s with netState := ns })

def backend : Backend (Service ν) where
  shared s := s.shared
  withShared s sh := { s with shared := sh }
  switchProxy s name strategy := s.switchProxy name strategy
  runHealthCheck s := s.runHealthCheck
  rosterStatus s := s.roster.status
  engineVersion s := s.engineVersion

end Service

end ProxyRouter.App
