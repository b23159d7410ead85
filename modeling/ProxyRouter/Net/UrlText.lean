import ProxyRouter.Net.Url
import ProxyRouter.Net.Address
/-!
Writing URLs back as text. Each part of a URL has its own set of characters that stand for
themselves; every other byte is written as `%` and two uppercase hexadecimal digits. A path or
fragment is written as it was read when that spelling is a valid encoding of it, and escaped
afresh otherwise.
-/
namespace ProxyRouter.Net

/-- The part of a URL a text is escaped for. -/
inductive EscapeMode where
  | host
  | zone
  | path
  | pathSegment
  | userPassword
  | queryComponent
  | fragment
deriving DecidableEq, Repr

def shouldEscape (b : Nat) (mode : EscapeMode) : Bool :=
  let c := Char.ofNat b
  if ('a' ≤ c && c ≤ 'z') || ('A' ≤ c && c ≤ 'Z') || ('0' ≤ c && c ≤ '9') then false
  else if (mode == .host || mode == .zone) && "!$&'()*+,;=:[]<>\"".toList.contains c then false
  else if "-_.~".toList.contains c then false
  else if "$&+,/:;=?@".toList.contains c then
    match mode with
    | .path => c == '?'
    | .pathSegment => c == '/' || c == ';' || c == ',' || c == '?'
    | .userPassword => c == '@' || c == '/' || c == '?' || c == ':'
    | .queryComponent => true
    | .fragment => false
    | _ => true
  else if mode == .fragment && "!()*".toList.contains c then false
  else true

def hexByte (b : Nat) : String :=
  let digit (d : Nat) : Char := if d < 10 then Char.ofNat (48 + d) else Char.ofNat (55 + d)
  String.ofList ['%', digit (b / 16), digit (b % 16)]

def escapeBytes (mode : EscapeMode) (bytes : List UInt8) : String :=
  String.join (bytes.map fun byte =>
    let b := byte.toNat
    if shouldEscape b mode then
      if b == 32 && mode == .queryComponent then "+" else hexByte b
    else String.singleton (Char.ofNat b))

def escapeFor (mode : EscapeMode) (s : String) : String := escapeBytes mode s.toUTF8.toList

def pathEscape (s : String) : String := escapeFor .pathSegment s

def validEncoded (s : String) (mode : EscapeMode) : Bool :=
  s.toUTF8.toList.all fun byte =>
    let c := Char.ofNat byte.toNat
    "!$&'()*+,;=:@[]%".toList.contains c || !shouldEscape byte.toNat mode

def Url.escapedPath (u : Url) : String :=
  if u.rawPath != "" && validEncoded u.rawPath .path then u.rawPath
  else if u.path == "*" then "*"
  else escapeFor .path u.path

def Url.escapedFragment (u : Url) : String :=
  if u.rawFragment != "" && validEncoded u.rawFragment .fragment then u.rawFragment
  else escapeFor .fragment u.fragment

/-- The user information as written. With `redact` set, a password is replaced by `***` and
the user name beside it is shown decoded, as a person reads it. -/
def userText (raw : String) (redact : Bool) : String :=
  let plain (t : String) : List UInt8 := match unescapeBytes .path t.toList with
    | .ok v => v
    | .error _ => t.toUTF8.toList
  match raw.splitOn ":" with
  | [name] => escapeBytes .userPassword (plain name)
  | name :: rest =>
    if redact then Text.ofBytesLossy (plain name) ++ ":***"
    else escapeBytes .userPassword (plain name) ++ ":" ++
      escapeBytes .userPassword (plain (":".intercalate rest))
  | [] => ""

/-- The text of a URL; with `redact`, a password is written `***`. A path that starts with
`//` where no authority is written has its first slash escaped, so that the text does not
read back with the path's first segment as a host. -/
def Url.render (u : Url) (redact : Bool := false) : String := Id.run do
  let mut buf := ""
  let mut authority := false
  if u.scheme != "" then buf := buf ++ u.scheme ++ ":"
  if u.rootless != "" then buf := buf ++ u.rootless
  else
    if u.scheme != "" || !u.host.isEmpty || u.user.isSome then
      if !(u.omitHost && u.host.isEmpty && u.user.isNone) then
        if !u.host.isEmpty || u.path != "" || u.user.isSome then
          buf := buf ++ "//"
          authority := true
        match u.user with
        | some raw => buf := buf ++ userText raw redact ++ "@"
        | none => pure ()
        if !u.host.isEmpty then buf := buf ++ escapeBytes .host u.host
    let path := u.escapedPath
    let path := if !authority && path.startsWith "//" then "%2F" ++ (path.drop 1).toString else path
    if path != "" && path.front != '/' && !u.host.isEmpty then buf := buf ++ "/"
    if buf.isEmpty && ((path.splitOn "/").headD "").contains ':' then buf := buf ++ "./"
    buf := buf ++ path
  if u.forceQuery || u.rawQuery != "" then buf := buf ++ "?" ++ u.rawQuery
  if u.fragment != "" then buf := buf ++ "#" ++ u.escapedFragment
  return buf

def Url.port (u : Url) : String :=
  let cs := u.hostText.toList
  match lastIndexOf? cs ':' with
  | some i => if validOptionalPort (cs.drop i) then String.ofList (cs.drop (i + 1)) else ""
  | none => ""

def joinHostPort (host port : String) : String :=
  if host.contains ':' then "[" ++ host ++ "]:" ++ port else host ++ ":" ++ port

def schemePort (scheme : String) : String :=
  match scheme with
  | "http" => "80"
  | "https" => "443"
  | "socks5" | "socks5h" => "1080"
  | _ => ""

/-- A host as a network address writes it: an IP address in its canonical form, with an
embedded IPv4 address unmapped; a name as it is. -/
def canonicalHost (h : String) : String :=
  match Addr.parse h with
  | .ok a => if a.zone.isEmpty then (Addr.unmap a).text else h
  | .error _ => h

def Url.dialAddress (u : Url) : String :=
  joinHostPort (canonicalHost u.hostname) (if u.port.isEmpty then schemePort u.scheme else u.port)

end ProxyRouter.Net
