import ProxyRouter.Text.Quote
import ProxyRouter.Text.CaseMap
import ProxyRouter.Net.Address
/-!
URLs and host-port pairs. A URL is read as `scheme:` (letters, digits, `+`, `-`, `.`, starting
with a letter), then an authority after `//` (optional `user@`, a host, an optional `:port` of
digits, an IPv6 literal in brackets), a path, a query after `?` and a fragment after `#`.
Percent escapes must be well formed, a host may escape only non-ASCII bytes (and `%25` inside
an IPv6 zone), a bracketed host must be an IPv6 address, user information may hold only a few
ASCII characters, and a relative reference may not have a colon in its first segment. The host
name of a URL is its host without port and without the brackets of an IPv6 literal.
-/
namespace ProxyRouter.Net

def indexOf? (cs : List Char) (c : Char) : Option Nat := cs.findIdx? (· == c)

def lastIndexOf? (cs : List Char) (c : Char) : Option Nat :=
  (cs.reverse.findIdx? (· == c)).map fun i => cs.length - 1 - i

def containsSeq (cs xs : List Char) : Bool :=
  (List.range (cs.length + 1)).any fun i => (cs.drop i).take xs.length == xs

/-- Split `host:port`, where the port follows the last colon and a host containing colons
must be bracketed; `none` when the text has no such shape. -/
def splitHostPort (s : String) : Option (String × String) :=
  let cs := s.toList
  match lastIndexOf? cs ':' with
  | none => none
  | some i =>
    let shape : Option (String × Nat × Nat) :=
      if cs.head? == some '[' then
        match indexOf? cs ']' with
        | none => none
        | some e =>
          if e + 1 == cs.length then none
          else if e + 1 == i then some (String.ofList ((cs.take e).drop 1), 1, e + 1)
          else none
      else
        let host := cs.take i
        if host.contains ':' then none else some (String.ofList host, 0, 0)
    match shape with
    | none => none
    | some (host, j, k) =>
      if (cs.drop j).contains '[' || (cs.drop k).contains ']' then none
      else some (host, String.ofList (cs.drop (i + 1)))

/-- A URL, as read. -/
structure Url where
  scheme : String := ""
  rootless : String := ""
  user : Option String := none
  /-- the bytes of the host with its escapes decoded: an escape may leave bytes that are not
  UTF-8, and the URL is written back from these bytes -/
  host : List UInt8 := []
  path : String := ""
  /-- the path as written, escapes kept -/
  rawPath : String := ""
  rawQuery : String := ""
  /-- the text ended in a `?` with an empty query -/
  forceQuery : Bool := false
  /-- a scheme was followed by a single `/`, without authority -/
  omitHost : Bool := false
  fragment : String := ""
  /-- the fragment as written, escapes kept -/
  rawFragment : String := ""
deriving Repr

/-- What a component of a URL may contain. -/
inductive Component where
  | host
  | zone
  | path
  | fragment
deriving DecidableEq

def hostSafe (c : Char) : Bool :=
  "!$&\x27()*+,;=:[]<>\"-_.~".toList.contains c

def isHex (c : Char) : Bool :=
  ('0' ≤ c && c ≤ '9') || ('a' ≤ c && c ≤ 'f') || ('A' ≤ c && c ≤ 'F')

def hexVal (c : Char) : Nat :=
  if '0' ≤ c && c ≤ '9' then c.toNat - 48
  else if 'a' ≤ c && c ≤ 'f' then c.toNat - 87 else c.toNat - 55

/-- The byte escaped may appear in a host only escaped: not an ASCII letter, digit or
host-safe character. -/
def needsEscapeInHost (v : Nat) : Bool :=
  let c := Char.ofNat v
  !(c.isAlphanum || hostSafe c)

def escapeError (bytes : List UInt8) : String :=
  "invalid URL escape " ++ Text.quoteBytes bytes

/-- Check the escapes of a component and decode them to bytes; the error is the message. The
check works on the UTF-8 bytes of the component, so an escape cut short by a non-ASCII character
is reported with the bytes that follow the `%`. -/
def unescapeBytes (mode : Component) (cs : List Char) : Except String (List UInt8) :=
  let rec go : Nat → List UInt8 → List UInt8 → Except String (List UInt8)
    | 0, _, acc => .ok acc
    | _ + 1, [], acc => .ok acc
    | fuel + 1, b :: rest, acc =>
      if b == 0x25 then
        match rest with
        | x :: y :: more =>
          let a := Char.ofNat x.toNat
          let c := Char.ofNat y.toNat
          if isHex a && isHex c then
            let v := hexVal a * 16 + hexVal c
            let isPct := a == '2' && c == '5'
            if mode == .host && hexVal a < 8 && !isPct then .error (escapeError [b, x, y])
            else if mode == .zone && !isPct && v != 32 && needsEscapeInHost v then
              .error (escapeError [b, x, y])
            else go fuel more (v.toUInt8 :: acc)
          else .error (escapeError [b, x, y])
        | _ => .error (escapeError (b :: rest))
      else
        let c := Char.ofNat b.toNat
        if (mode == .host || mode == .zone) && b < 0x80 && !(c.isAlphanum || hostSafe c) then
          .error ("invalid character " ++ Text.quote (String.singleton c) ++ " in host name")
        else go fuel rest (b :: acc)
  let bytes := (String.ofList cs).toUTF8.toList
  (go (bytes.length + 1) bytes []).map List.reverse

/-- Check the escapes of a component and decode them to text: a decoded byte that does not
belong to a well-formed UTF-8 sequence reads as U+FFFD. -/
def unescape (mode : Component) (cs : List Char) : Except String String :=
  (unescapeBytes mode cs).map Text.ofBytesLossy

def validOptionalPort : List Char → Bool
  | [] => true
  | ':' :: ds => ds.all Char.isDigit
  | _ => false

/-- Read `host[:port]` of an authority. A host with a `[` must start with it and hold an IPv6
literal up to its last `]`, optionally followed by a port: the literal is decoded (`%25` starts
a zone, which may escape more than a host may), must read as an address and must not be an
IPv4 one. Any other host has at most a port after its last colon, and only its escapes are
decoded. -/
def parseHost (cs : List Char) : Except String (List UInt8) :=
  match lastIndexOf? cs '[' with
  | some 0 =>
    match lastIndexOf? cs ']' with
    | none => .error "missing ']' in host"
    | some i =>
      let colonPort := cs.drop (i + 1)
      if !validOptionalPort colonPort then
        .error ("invalid port " ++ Text.quote (String.ofList colonPort) ++ " after host")
      else
        let inner := (cs.take i).drop 1
        let zoneAt := (List.range inner.length).find? fun j => (inner.drop j).take 3 == ['%', '2', '5']
        let literal : Except String (List UInt8) := match zoneAt with
          | some z =>
            match unescapeBytes .host (inner.take z), unescapeBytes .zone (inner.drop z) with
            | .ok a, .ok b => .ok (a ++ b)
            | .error e, _ => .error e
            | _, .error e => .error e
          | none => unescapeBytes .host inner
        match literal with
        | .error e => .error e
        | .ok lit =>
          -- Read one character per byte: only ASCII characters take part in an address, and
          -- an error quotes the bytes of the literal as they are.
          let byteChars := String.ofList (lit.map fun b => Char.ofNat b.toNat)
          let quote (t : String) : String := Text.quoteBytes (t.toList.map fun c => c.toNat.toUInt8)
          match Addr.parse byteChars with
          | .error e => .error ("invalid host: " ++ e.messageWith quote)
          | .ok a =>
            if a.family == .v4 then .error "invalid IP-literal"
            else .ok ([0x5B] ++ lit ++ [0x5D] ++ (String.ofList colonPort).toUTF8.toList)
  | some _ => .error "invalid IP-literal"
  | none =>
    match lastIndexOf? cs ':' with
    | some i =>
      let colonPort := cs.drop i
      if !validOptionalPort colonPort then
        .error ("invalid port " ++ Text.quote (String.ofList colonPort) ++ " after host")
      else unescapeBytes .host cs
    | none => unescapeBytes .host cs

/-- A character the user information of an authority may hold: an ASCII letter or digit, one of
`-._:~!$&'()*+,;=@`, or the `%` of an escape. -/
def userinfoChar (c : Char) : Bool :=
  c.isAlphanum || "-._:~!$&\x27()*+,;=%@".toList.contains c

/-- Check the user information of an authority: only allowed characters, and well-formed escapes
in the name and in the password after the first colon. -/
def checkUserinfo (cs : List Char) : Except String Unit :=
  if !cs.all userinfoChar then .error "net/url: invalid userinfo"
  else
    let name := cs.takeWhile (· != ':')
    let password := (cs.dropWhile (· != ':')).drop 1
    match unescape .path name, unescape .path password with
    | .error e, _ => .error e
    | _, .error e => .error e
    | .ok _, .ok _ => .ok ()

def splitScheme (cs : List Char) : Except String (String × List Char) :=
  let rec go : Nat → List Char → Except String (String × List Char)
    | _, [] => .ok ("", cs)
    | i, c :: rest =>
      if ('a' ≤ c && c ≤ 'z') || ('A' ≤ c && c ≤ 'Z') then go (i + 1) rest
      else if ('0' ≤ c && c ≤ '9') || c == '+' || c == '-' || c == '.' then
        if i == 0 then .ok ("", cs) else go (i + 1) rest
      else if c == ':' then
        if i == 0 then .error "missing protocol scheme" else .ok (String.ofList (cs.take i), rest)
      else .ok ("", cs)
  go 0 cs

/-- Cut the query off a reference: what comes before the first `?`, and the query after it. A
single `?` that ends the text leaves an empty query. -/
def cutQuery (rest : List Char) : List Char × List Char :=
  if rest.getLast? == some '?' && rest.count '?' == 1 then (rest.dropLast, [])
  else match indexOf? rest '?' with
    | some i => (rest.take i, rest.drop (i + 1))
    | none => (rest, [])

def cutPath (auth : List Char) : List Char × List Char :=
  match indexOf? auth '/' with
  | some i => (auth.take i, auth.drop i)
  | none => (auth, [])

def splitUser (auth : List Char) : Option String × List Char :=
  match lastIndexOf? auth '@' with
  | some i => (some (String.ofList (auth.take i)), auth.drop (i + 1))
  | none => (none, auth)

/-- Read what follows `//`: the user information and the host of the authority, and the path
after it. -/
def readAuthority (rest : List Char) :
    Except String (Option (Option String × List UInt8) × List Char) :=
  let (auth, path) := cutPath rest
  let (user, hostPart) := splitUser auth
  match parseHost hostPart, user with
  | .error e, _ => .error e
  | .ok h, none => .ok (some (none, h), path)
  | .ok h, some u =>
    match checkUserinfo u.toList with
    | .error e => .error e
    | .ok () => .ok (some (user, h), path)

def parseReference (cs : List Char) : Except String Url :=
  if cs.any (fun c => c.toNat < 0x20 || c.toNat == 0x7F) then
    .error "net/url: invalid control character in URL"
  else if cs == ['*'] then .ok { path := "*" }
  else
    match splitScheme cs with
    | .error e => .error e
    | .ok (scheme, rest) =>
      let scheme := Text.lower scheme
      let forceQuery := rest.getLast? == some '?' && rest.count '?' == 1
      let (rest, rawQuery) := cutQuery rest
      let base : Url := { scheme := scheme, rawQuery := String.ofList rawQuery, forceQuery := forceQuery }
      if rest.head? != some '/' && scheme != "" then .ok { base with rootless := String.ofList rest }
      else if rest.head? != some '/' && ((rest.takeWhile (· != '/')).contains ':') then
        .error "first path segment in URL cannot contain colon"
      else
        let authority? : Except String (Option (Option String × List UInt8) × List Char) :=
          if (scheme != "" || (rest.take 3 != ['/', '/', '/'])) && rest.take 2 == ['/', '/'] then
            readAuthority (rest.drop 2)
          else .ok (none, rest)
        let base := if scheme != "" && rest.take 2 != ['/', '/'] && rest.head? == some '/' then
          { base with omitHost := true } else base
        match authority? with
        | .error e => .error e
        | .ok (auth, path) =>
          match unescape .path path with
          | .error e => .error e
          | .ok p =>
            let raw := String.ofList path
            match auth with
            | some (user, host) => .ok { base with user := user, host := host, path := p, rawPath := raw }
            | none => .ok { base with path := p, rawPath := raw }

def cutFragment (cs : List Char) : List Char × Option (List Char) :=
  match indexOf? cs '#' with
  | some i => (cs.take i, some (cs.drop (i + 1)))
  | none => (cs, none)

def Url.parse (s : String) : Except String Url :=
  let (body, frag) := cutFragment s.toList
  let wrap (e : String) : String := "parse " ++ Text.quote (String.ofList body) ++ ": " ++ e
  match parseReference body with
  | .error e => .error (wrap e)
  | .ok u =>
    match frag with
    | none => .ok u
    | some f =>
      match unescape .fragment f with
      | .ok fr => .ok { u with fragment := fr, rawFragment := String.ofList f }
      | .error e => .error ("parse " ++ Text.quote s ++ ": " ++ e)

/-- The host as text: each byte that does not belong to a well-formed UTF-8 sequence reads as
U+FFFD. A colon or bracket is one byte of ASCII, so it stands where it stood in the bytes. -/
def Url.hostText (u : Url) : String := Text.ofBytesLossy u.host

def Url.hostname (u : Url) : String :=
  let cs := u.hostText.toList
  let host := match lastIndexOf? cs ':' with
    | some i => if validOptionalPort (cs.drop i) then cs.take i else cs
    | none => cs
  if host.head? == some '[' && host.getLast? == some ']' then String.ofList (host.drop 1).dropLast
  else String.ofList host

end ProxyRouter.Net
