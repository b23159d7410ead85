import ProxyRouter.App.Server
import ProxyRouter.Config.Logging
/-!
The service's command line. It reads `crawladapter.ini` and `.env` from the configuration
directory together with the process environment, sets up logging, builds the service from the
files of the directory, and runs one start and stop cycle: the roster is refreshed, the health
snapshot warmed and saved, and the runtime settings file written when it was missing. This
build reaches no network, so every engine request fails as unreachable.
-/
open ProxyRouter

def readText? (path : String) : IO (Option String) := do
  try
    return some (← IO.FS.readFile path)
  catch _ =>
    return none

def die (message : String) (code : UInt32) : IO UInt32 := do
  IO.eprint message
  return code

def runService (dir : String) : IO UInt32 := do
  let iniPath := App.joinPath dir "crawladapter.ini"
  let env := App.parseEnviron ((← readText? "/proc/self/environ").getD "")
  let loaded := Config.loadConfig Config.ServiceConfig.defaults iniPath (← readText? iniPath)
    (← readText? (App.joinPath dir ".env")) env
  match loaded.1 with
  | .error (.failed e) => die ("Fatal: Failed to load config file \x27" ++ iniPath ++ "\x27: " ++ e ++ "\n") 1
  | .error (.crashed e) => die ("panic: " ++ e ++ "\n") 2
  | .ok cfg =>
    match Config.setupLogger cfg.log.level cfg.log.format with
    | .error e => die ("Fatal: Failed to initialize logger: " ++ e ++ "\n") 1
    | .ok _ =>
      let names := ["settings.json", cfg.roster.file, cfg.roster.snapshotFile].filter (!·.isEmpty)
      let mut files : List (String × String) := []
      for name in names do
        if let some text ← readText? (App.joinPath dir name) then
          files := files ++ [(name, text)]
      match App.Service.create cfg files Net.Network.unreachable () Instant.epoch with
      | .error e => die ("Failed to initialize crawl adapter: " ++ e.message ++ "\n") 1
      | .ok service =>
        let service := service.run
        IO.println ("Status: " ++ service.shared.status ++ ", roster size " ++
          toString service.roster.members.length)
        let service := service.stop
        for (name, text) in service.files do
          if !(files.contains (name, text)) then
            IO.FS.writeFile (App.joinPath dir name) text
        IO.println ("Status: " ++ service.shared.status)
        return 0

def main (args : List String) : IO UInt32 := do
  match App.parseArgs args with
  | .help => die App.usage 0
  | .refuse message => die message 2
  | .run dir => runService dir
