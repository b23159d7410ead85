import ProxyRouter.Routing.Wildcard
import ProxyRouter.Settings.Modules
import ProxyRouter.Time.Instant
import ProxyRouter.Json.Value
import ProxyRouter.Text.Blank
/-!
Sticky sessions: a host keeps the proxy it was given for a while. Sessions are on when the
lifetime is positive and the mode is `global` (every host) or `conditional` (hosts matched by a
rule). A rule with `*` is compiled to an expression over the whole host, `*` standing for any run
of characters other than a line feed and everything else for itself up to case; another rule, or
one that does not compile, matches the host itself and its subdomains, up to case.
-/
namespace ProxyRouter.Selection

open Routing

/-- A host's session: its proxy and when the session ends. -/
structure StickyRecord where
  proxy : String
  expiry : Instant
deriving DecidableEq, Repr

/-- A rule saying which hosts keep their proxy. -/
inductive StickyRule where
  /-- hosts the whole of which the expression matches -/
  | pattern (re : Regexp)
  /-- this domain, lowercase, and its subdomains -/
  | domain (name : String)
deriving Repr

namespace StickyRule

def ofText (raw : String) : Option StickyRule :=
  let rule := Text.trimBlank raw
  if rule.isEmpty then none
  else if rule.toList.contains '*' then
    match compileWildcard stickyWildcards rule with
    | .ok re => some (.pattern re)
    | .error _ => some (.domain (Text.lower rule))
  else some (.domain (Text.lower rule))

def appliesTo (r : StickyRule) (host : String) : Bool :=
  match r with
  | .pattern re => re.matches host
  | .domain d =>
    let h := Text.lower host
    h == d || (h.toList.reverse.take (d.length + 1) == ('.' :: d.toList).reverse)

end StickyRule

/-- The session table and its settings. -/
structure StickyManager where
  lifetime : Duration
  mode : String
  rules : List StickyRule
  sessions : List (String × StickyRecord) := []
deriving Repr

namespace StickyManager

def new : Option Settings.StickySettings → StickyManager
  | none => ⟨⟨0⟩, "disabled", [], []⟩
  | some cfg =>
    ⟨Duration.ofSeconds cfg.ttl, cfg.mode, (cfg.rules.getD []).filterMap StickyRule.ofText, []⟩

def enabled (m : StickyManager) : Bool :=
  m.lifetime.nanos > 0 && (m.mode == "global" || m.mode == "conditional")

/-- Sessions apply to the host. -/
def shouldApply (m : StickyManager) (host : String) : Bool :=
  m.enabled && (m.mode == "global" || m.rules.any (·.appliesTo host))

def session? (m : StickyManager) (host : String) : Option StickyRecord :=
  (m.sessions.find? (·.1 == host)).map (·.2)

def drop (m : StickyManager) (host : String) : StickyManager :=
  { m with sessions := m.sessions.filter (·.1 != host) }

/-- The table with the session of a host set. -/
def put (m : StickyManager) (host : String) (r : StickyRecord) : StickyManager :=
  if m.sessions.any (·.1 == host) then
    { m with sessions := m.sessions.map fun p => if p.1 == host then (host, r) else p }
  else { m with sessions := m.sessions ++ [(host, r)] }

/-- The live session of a host whose proxy is still accepted, renewed from now; the session is
dropped when it has expired or its proxy is refused. Also the proxy that was put to `valid`. -/
def get (m : StickyManager) (now : Instant) (host : String) (valid : String → Bool) :
    Option StickyRecord × Option String × StickyManager :=
  if !m.enabled then (none, none, m)
  else
    match m.session? host with
    | none => (none, none, m)
    | some r =>
      if r.expiry < now then (none, none, m.drop host)
      else if !valid r.proxy then (none, some r.proxy, m.drop host)
      else
        let r' : StickyRecord := ⟨r.proxy, now.add m.lifetime⟩
        (some r', some r.proxy, m.put host r')

def set (m : StickyManager) (now : Instant) (host proxy : String) : StickyManager :=
  if m.enabled then m.put host ⟨proxy, now.add m.lifetime⟩ else m

/-- Drop the sessions that have expired, as the cleanup that runs every minute does. -/
def cleanup (m : StickyManager) (now : Instant) : StickyManager :=
  { m with sessions := m.sessions.filter fun p => !(p.2.expiry < now) }

def entries (m : StickyManager) (now : Instant) : List (String × StickyRecord) :=
  let live := m.sessions.filter fun p => !(p.2.expiry < now)
  live.foldl (fun acc p => insertByHost p acc) []
where
  /-- Insert a session by host. -/
  insertByHost (p : String × StickyRecord) : List (String × StickyRecord) → List (String × StickyRecord)
    | [] => [p]
    | q :: qs => if p.1 < q.1 then p :: q :: qs else q :: insertByHost p qs

end StickyManager

def StickyRecord.toJson (r : StickyRecord) : Json :=
  .object [("proxy", .string r.proxy), ("expiry", .time r.expiry)]

def sessionsJson (rs : List (String × StickyRecord)) : Json :=
  .object (rs.map fun p => (p.1, p.2.toJson))

end ProxyRouter.Selection
