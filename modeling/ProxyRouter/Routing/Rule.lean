import ProxyRouter.Net.Address
import ProxyRouter.Routing.Wildcard
import ProxyRouter.Text.Blank
/-!
Routing rules. A rule text, trimmed of blanks, is a network when it contains `/` (read as
`address/length`, host bits cleared) or reads as a single address (an IPv4-mapped address
unmapped, the whole address as network); otherwise a wildcard pattern when it contains `*` or
`?`, compiled to an expression; otherwise an exact domain, kept in lowercase. A blank text is no
rule.
-/
namespace ProxyRouter.Routing

/-- A routing rule with the trimmed text it was read from. -/
inductive Rule where
  | network (raw : String) (prefix_ : Net.Prefix)
  | domain (raw : String) (name : String)
  | pattern (raw : String) (re : Regexp)
deriving Repr

/-- Why a text is not a rule. -/
inductive RuleError where
  | empty
  | badNetwork (raw : String) (reason : String)
  | badPattern (raw : String) (reason : String)
deriving Repr, DecidableEq

def RuleError.message : RuleError → String
  | .empty => "invalid routing rule: empty"
  | .badNetwork raw reason => "invalid routing rule: " ++ Text.quote raw ++ ": " ++ reason
  | .badPattern raw reason => "invalid routing rule: " ++ Text.quote raw ++ ": " ++ reason

namespace Rule

def raw : Rule → String
  | .network r _ => r
  | .domain r _ => r
  | .pattern r _ => r

def kind : Rule → String
  | .network .. => "ip"
  | .domain .. => "domain"
  | .pattern .. => "pattern"

def parse (text : String) : Except RuleError Rule :=
  let raw := Text.trimBlank text
  if raw.isEmpty then .error .empty
  else if raw.toList.contains '/' then
    match Net.Prefix.parse raw with
    | .ok p => .ok (.network raw p.masked)
    | .error e => .error (.badNetwork raw e)
  else
    match Net.Addr.parse raw with
    | .ok a =>
      let a := a.unmap
      .ok (.network raw (Net.Prefix.ofAddr a a.bitLen))
    | .error _ =>
      if raw.toList.any (fun c => c == '*' || c == '?') then
        match compileWildcard routingWildcards raw with
        | .ok re => .ok (.pattern raw re)
        | .error e => .error (.badPattern raw e)
      else .ok (.domain raw (Text.lower raw))

end Rule

def defaultRules : List String :=
  ["localhost", "127.0.0.1", "192.168.*", "10.*", "172.16.*", "*.local", "*.dev", "*.test",
   "pypi.org", "npmjs.com", "github.com", "githubusercontent.com"]

def templates : List (String × List String) :=
  [("ip_testing",
    ["httpbin.org", "ipinfo.io", "ifconfig.co", "ifconfig.me", "checkip.amazonaws.com",
     "ipify.org", "icanhazip.com", "ident.me", "gstatic.com", "detectportal.firefox.com",
     "connectivitycheck.platform.hicloud.com", "*whatismyip*", "*checkip*", "*myip*"]),
   ("news_scraping",
    ["panewslab.com", "*panewslab*", "coindesk.com", "cointelegraph.com", "decrypt.co",
     "theblock.co"])]

def template? (name : String) : Option (List String) :=
  (templates.find? (·.1 == name)).map (·.2)

def templateNames : List String := templates.map (·.1)

end ProxyRouter.Routing
