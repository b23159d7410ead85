import ProxyRouter.Config.Service
import ProxyRouter.Net.Http
/-!
The console's listener. A port that is not positive leaves the console disabled; a port above
65535 is not a port; otherwise the console binds every interface at that port, which fails when
another listener already holds it. Clients reach the console over the network at the loopback
address.
-/
namespace ProxyRouter.Console

/-- A listening console. -/
structure Listener where
  port : Nat
deriving Repr, DecidableEq

def bindAddress (port : Int) : String := "0.0.0.0:" ++ toString port

def startListener (opts : Config.ConsoleOptions) (taken : List Nat) : Except String (Option Listener) :=
  if opts.webPort ≤ 0 then .ok none
  else
    let addr := bindAddress opts.webPort
    let failed (e : String) : Except String (Option Listener) :=
      .error ("start web api on " ++ addr ++ ": " ++ e)
    if opts.webPort > 65535 then failed ("listen tcp: address " ++ toString opts.webPort ++ ": invalid port")
    else if taken.contains opts.webPort.toNat then
      failed ("listen tcp " ++ addr ++ ": bind: address already in use")
    else .ok (some ⟨opts.webPort.toNat⟩)

def base64Alphabet : List Char :=
  "ABCDEFGHIJKLMNOPQRSTUVWXYZabcdefghijklmnopqrstuvwxyz0123456789+/".toList

def base64Char (n : Nat) : Char := base64Alphabet.getD (n % 64) '='

def base64Encode : List UInt8 → List Char
  | a :: b :: c :: rest =>
    let n := a.toNat * 65536 + b.toNat * 256 + c.toNat
    [base64Char (n / 262144), base64Char (n / 4096), base64Char (n / 64), base64Char n] ++ base64Encode rest
  | [a, b] =>
    let n := a.toNat * 65536 + b.toNat * 256
    [base64Char (n / 262144), base64Char (n / 4096), base64Char (n / 64), '=']
  | [a] =>
    let n := a.toNat * 65536
    [base64Char (n / 262144), base64Char (n / 4096), '=', '=']
  | [] => []

def basicAuthorization (user password : String) : String :=
  "Basic " ++ String.ofList (base64Encode (user ++ ":" ++ password).toUTF8.toList)

/-- A client's GET of a path of the console at the loopback address, with basic credentials
when given. -/
def Listener.get {σ : Type} (l : Listener) (net : Net.Network σ) (s : σ) (path : String)
    (credentials : Option (String × String)) : Except String Net.HttpResponse × σ :=
  let target := "http://127.0.0.1:" ++ toString l.port ++ path
  match Net.Url.parse target with
  | .error e => (.error ("parse " ++ Text.quote target ++ ": " ++ e), s)
  | .ok url =>
    let headers := match credentials with
      | some (u, p) => [("Authorization", basicAuthorization u p)]
      | none => []
    Net.send net s .direct { method := "GET", url := url, headers := headers }

end ProxyRouter.Console
