import ProxyRouter.Net.UrlText
import ProxyRouter.Text.Quote
import ProxyRouter.Text.CaseMap
import ProxyRouter.Decimal.Read
/-!
An HTTP client over an abstract network. A request goes to the server of its URL, through an
HTTP proxy, or through a SOCKS5 proxy. Only `http` and `https` URLs with a host are sent. The
network dials an address and, once connected, carries the request and brings back the
response; when the dial fails its error text is wrapped the way the client reports it: after
`proxyconnect tcp: ` when an HTTP proxy could not be reached, after
`socks connect tcp PROXY->TARGET: ` for a SOCKS5 proxy (`socks connect tcp: ` when either end has
no port from 1 to 65535), and always after the method and the
quoted URL (with any password written `***`).
-/
namespace ProxyRouter.Net

/-- An HTTP request. -/
structure HttpRequest where
  method : String
  url : Url
  headers : List (String × String) := []
  body : String := ""
deriving Repr

/-- An HTTP response. -/
structure HttpResponse where
  status : Nat
  headers : List (String × String) := []
  body : String := ""
deriving Repr, Inhabited

/-- How requests reach their servers. -/
inductive Route where
  /-- straight to the server of the URL -/
  | direct
  /-- through an HTTP proxy at this URL -/
  | httpProxy (proxy : Url)
  /-- through a SOCKS5 proxy at this address -/
  | socks (address : String)
deriving Repr

/-- A network over its state `σ`: it dials an address and exchanges a request with the server
there, or gives the text of the dial's failure. -/
structure Network (σ : Type) where
  exchange : σ → String → HttpRequest → Except String HttpResponse × σ

def dialPort (port : String) : Option Nat :=
  if port.isEmpty || !port.all Char.isDigit then none
  else
    let n := port.foldl (fun acc c => acc * 10 + (c.toNat - '0'.toNat)) 0
    if n ≤ 65535 then some n else none

/-- Why dialing an address fails on a host without any route: a port that is not one is refused,
an IP address (or the empty host, the local system) is unreachable, and a name cannot be looked
up. The address is reported with the IP address in canonical form and the port as a number. -/
def unreachableDial (address : String) : String :=
  match splitHostPort address with
  | none => "dial tcp: address " ++ address ++ ": missing port in address"
  | some (host, port) =>
    match dialPort port with
    | none => "dial tcp: address " ++ port ++ ": invalid port"
    | some n =>
      let unreachable (h : String) := "dial tcp " ++ joinHostPort h (toString n) ++ ": connect: network is unreachable"
      if host.isEmpty then unreachable ""
      else
        match Addr.parse host with
        | .ok a => unreachable (Addr.unmap a).text
        | .error _ => "dial tcp: lookup " ++ host ++ ": no such host"

def Network.unreachable : Network Unit where
  exchange _ address _ := (.error (unreachableDial address), ())

/-- An address as a SOCKS5 dialer names its ends: an IP address in canonical form or a name, and
a port from 1 to 65535; none for any other address. -/
def socksAddress (address : String) : Option String :=
  match splitHostPort address with
  | some (host, port) =>
    match Decimal.readInt port with
    | .ok n => if n < 1 || n > 65535 then none else some (joinHostPort (canonicalHost host) (toString n))
    | .error _ => none
  | none => none

def methodWord (m : String) : String :=
  match m.toList with
  | c :: rest => String.ofList (c :: (Text.lower (String.ofList rest)).toList)
  | [] => ""

def send {σ : Type} (net : Network σ) (s : σ) (route : Route) (req : HttpRequest) :
    Except String HttpResponse × σ :=
  let wrap (e : String) : String :=
    methodWord req.method ++ " " ++ Text.quote (req.url.render true) ++ ": " ++ e
  if req.url.scheme != "http" && req.url.scheme != "https" then
    (.error (wrap ("unsupported protocol scheme " ++ Text.quote req.url.scheme)), s)
  else if req.url.host.isEmpty then (.error (wrap "http: no Host in request URL"), s)
  else
    let (address, explain) : String × (String → String) := match route with
      | .direct => (req.url.dialAddress, id)
      | .httpProxy p => (p.dialAddress, fun e => "proxyconnect tcp: " ++ e)
      | .socks a => (a, fun e =>
          match socksAddress a, socksAddress req.url.dialAddress with
          | some p, some d => "socks connect tcp " ++ p ++ "->" ++ d ++ ": " ++ e
          | _, _ => "socks connect tcp: " ++ e)
    match net.exchange s address req with
    | (.error e, s) => (.error (wrap (explain e)), s)
    | (.ok r, s) => (.ok r, s)

end ProxyRouter.Net
