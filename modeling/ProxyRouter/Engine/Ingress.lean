import ProxyRouter.Net.Http
import ProxyRouter.Time.Duration
/-!
The engine's local ingress: a proxy through which test requests leave by the engine's active
proxy. An `http` or `https` address is used as an HTTP proxy, a `socks5` or `socks5h` address
(port 1080 unless given) as a SOCKS5 proxy; any other scheme is refused. A test fetches a
target with `GET` and answers its status, following no redirects.
-/
namespace ProxyRouter.Engine

open Net

/-- The ingress: its address as configured and the route its requests take. -/
structure Ingress where
  address : String
  route : Route
  timeout : Duration
deriving Repr

def Ingress.new (address : String) (timeout : Duration) : Except String Ingress :=
  match Url.parse address with
  | .error e => .error ("invalid ingress address " ++ Text.quote address ++ ": " ++ e)
  | .ok u =>
    match u.scheme with
    | "http" | "https" => .ok ⟨address, .httpProxy u, timeout⟩
    | "socks5" | "socks5h" =>
      let port := if u.port.isEmpty then "1080" else u.port
      .ok ⟨address, .socks (joinHostPort u.hostname port), timeout⟩
    | other => .error ("unsupported ingress scheme " ++ Text.quote other)

def Ingress.test {σ : Type} (i : Ingress) (net : Network σ) (s : σ) (target : String) :
    Except String Nat × σ :=
  match Url.parse target with
  | .error e => (.error e, s)
  | .ok url =>
    let req : HttpRequest := {
      method := "GET", url := url, headers := [("User-Agent", "crawladapter-healthcheck/1.0")] }
    match send net s i.route req with
    | (.ok r, s) => (.ok r.status, s)
    | (.error e, s) => (.error e, s)

end ProxyRouter.Engine
