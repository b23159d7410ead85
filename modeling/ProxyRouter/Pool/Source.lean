import ProxyRouter.Pool.Proxy
import ProxyRouter.Engine.Types
import ProxyRouter.Text.CaseMap
import ProxyRouter.Text.Blank
/-!
Where rosters come from. Protocol names are read without surrounding blanks and up to case, and
a few aliases are folded into one name (`shadowsocks` is `ss`, `hy2` is `hysteria2`, ...).
-/
namespace ProxyRouter.Pool

def normalizeProtocol (t : String) : String :=
  match Text.lower (Text.trimBlank t) with
  | "shadowsocks" => "ss"
  | "shadowsocksr" => "ssr"
  | "socks" => "socks5"
  | "https" => "http"
  | "hy2" => "hysteria2"
  | "wg" => "wireguard"
  | p => p

def controllerRoster (group : Engine.GroupInfo) (proxies : List (String × Engine.ProxyInfo)) :
    List ProxyIdentity :=
  group.all.filterMap fun name =>
    if name == "DIRECT" || name == "REJECT" then none
    else
      let info := (proxies.find? (·.1 == name)).map (·.2)
      if (info.map Engine.ProxyInfo.isGroup).getD false then none
      else some {
        name := name, protocol := normalizeProtocol ((info.map (·.kind)).getD ""),
        source := "controller" }

end ProxyRouter.Pool
