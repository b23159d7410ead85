import ProxyRouter.Pool.Proxy
import ProxyRouter.Text.Blank
/-!
Roster validation. Names are trimmed; a proxy is dropped, with the reason, when its name is
empty or repeats an earlier valid one, when it has a port but no server, when it has a server and
a port outside 1 to 65535, or when its protocol is not a known one (unless unknown protocols are
allowed).
-/
namespace ProxyRouter.Pool

def knownProtocols : List String :=
  ["ss", "ssr", "vmess", "vless", "trojan", "hysteria", "hysteria2", "tuic", "wireguard", "snell",
    "ssh", "socks5", "http", "anytls", "mieru"]

/-- A dropped proxy: its place in the input, its trimmed name and why. -/
structure Rejection where
  index : Nat
  name : String
  reason : String
deriving Repr

def invalidReason (allowUnknown : Bool) (seen : List String) (id : ProxyIdentity) : Option String :=
  if id.name.isEmpty then some "empty name"
  else if seen.contains id.name then some "duplicate name"
  else if id.server.isEmpty && id.port != 0 then some "port without server"
  else if !id.server.isEmpty && (id.port < 1 || id.port > 65535) then some "invalid port"
  else if !allowUnknown && !knownProtocols.contains id.protocol then
    some ("unknown protocol \"" ++ id.protocol ++ "\"")
  else none

/-- One proxy through the validator, after the valid proxies so far, the rejections, the names
taken and the proxy's place in the input. -/
def validateStep (allowUnknown : Bool) (acc : List ProxyIdentity × List Rejection × List String × Nat)
    (id : ProxyIdentity) : List ProxyIdentity × List Rejection × List String × Nat :=
  let (valid, rejected, seen, i) := acc
  let id := { id with name := Text.trimBlank id.name }
  match invalidReason allowUnknown seen id with
  | some r => (valid, rejected ++ [⟨i, id.name, r⟩], seen, i + 1)
  | none => (valid ++ [id], rejected, seen ++ [id.name], i + 1)

/-- Split a roster into its valid proxies, with trimmed names, and the rejections. -/
def validate (allowUnknown : Bool) (ids : List ProxyIdentity) : List ProxyIdentity × List Rejection :=
  let (valid, rejected, _, _) := ids.foldl (validateStep allowUnknown) ([], [], [], 0)
  (valid, rejected)

def Rejection.toJson (r : Rejection) : Json :=
  .object [("index", .int r.index), ("name", .string r.name), ("reason", .string r.reason)]

end ProxyRouter.Pool
