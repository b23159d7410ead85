/-!
What the proxy engine's controller reports: the selector group through which traffic leaves,
with the proxy it currently uses and all it may use, and the engine's proxies by name. An entry
that lists members of its own is a group, not a proxy.
-/
namespace ProxyRouter.Engine

/-- The selector group. -/
structure GroupInfo where
  name : String := ""
  kind : String := ""
  now : String := ""
  all : List String := []
deriving Repr, Inhabited

/-- One entry of the engine's proxies. -/
structure ProxyInfo where
  name : String := ""
  kind : String := ""
  now : String := ""
  all : List String := []
deriving Repr, Inhabited

def ProxyInfo.isGroup (p : ProxyInfo) : Bool := !p.all.isEmpty

end ProxyRouter.Engine
